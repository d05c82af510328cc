import Rollout.Json.Printer
import Rollout.Machine.Launch
import Rollout.World.Basic

/-!
# Rollout.Rehearsal — a host that plays prepared answers

A rehearsal lets the engine run against programs and servers that are not there: their answers are prepared, and
each is given in turn.  Accesses to the store can be prepared to fail.

* `Rehearsal.Reply`: one answer of a program, how long it takes and how often it is given.
* `Rehearsal.serves`, `Rehearsal.respond`: what reaches the server, and the answer to it.
* `Rehearsal.next`: the answer to a command, looked up by the name of its program and its first argument.
* `Rehearsal.obstacle?`: why a command cannot be started, where only some programs are there.
-/

namespace Rollout

namespace Rehearsal

/-- How a program ends. -/
inductive Ending
  | output (o : CommandOutput)
  | noLaunch (message : String)
  | timeout

/-- One answer of a program; without a number it is given forever. -/
structure Reply where
  ending : Ending
  took : Span
  times : Option Nat

end Rehearsal

/-- Prepared answers. -/
structure Rehearsal where
  /-- The programs that are there; without a list, every program can be started anywhere. -/
  programs : Option (List String)
  /-- Answers of programs, by program and first argument or by program alone. -/
  script : Table (List Rehearsal.Reply)
  /-- Answers of the server, if it is there; nothing stands for a connection that ends. -/
  responses : Option (List (Option Http.Response))
  /-- The accesses of each kind that fail, by number. -/
  failing : Table (List Nat)
  /-- The accesses of each kind that were made. -/
  made : Table Nat

namespace Rehearsal

def empty : Rehearsal := ⟨none, Table.empty, none, Table.empty, Table.empty⟩

/-- The name under which the answers to a command are prepared. -/
def keyOf (r : Rehearsal) (c : Command) : String :=
  let name := (Path.fileName? c.program).getD ""
  let specific := name ++ " " ++ c.args.headD ""
  if r.script.contains specific then specific else name

/-- What is left after an answer was given once. -/
def Reply.spend (reply : Reply) : List Reply :=
  match reply.times with
  | none => [reply]
  | some n => if n ≤ 1 then [] else [{ reply with times := some (n - 1) }]

/-- The next answer under a name, and what is left; answers given no times are passed over. -/
def take : List Reply → Option (Reply × List Reply)
  | [] => none
  | reply :: rest => if reply.times = some 0 then take rest else some (reply, reply.spend ++ rest)

/-- What a command ends with by an answer. -/
def Reply.result (reply : Reply) (c : Command) : Except CommandFault CommandOutput :=
  match reply.ending with
  | .output o => .ok o
  | .noLaunch message => .error (.launch c.program message)
  | .timeout => .error (.timedOut c.timeout)

/-- The answer to a command; without one it ends well and prints nothing. -/
def next (r : Rehearsal) (c : Command) : (Span × Except CommandFault CommandOutput) × Rehearsal :=
  let key := r.keyOf c
  match take ((r.script.get? key).getD []) with
  | some (reply, rest) => ((reply.took, reply.result c), { r with script := r.script.insert key rest })
  | none => ((0, .ok ⟨some 0, "", ""⟩), r)

/-- The host of the server, and the number under which it is reached there. -/
def server : UrlHost × Nat := (.name "127.0.0.1", 7)

/-- Whether what is asked for under an address reaches the server. -/
def serves (r : Rehearsal) (u : Url) : Bool :=
  r.responses.isSome && u.scheme = "http" && u.authority.any fun a => a.host = server.1 && a.port = some server.2

/-- The next response; a server that has none left knows nothing, and nobody else answers. -/
def respond (r : Rehearsal) (u : Url) : Option Http.Response × Rehearsal :=
  if r.serves u then
    match r.responses with
    | some (response :: rest) => (response, { r with responses := some rest })
    | _ => (some ⟨404, ""⟩, r)
  else (none, r)

/-- The kind and the key of an access. -/
def describe : Access → String × String
  | .get key => ("get", key)
  | .put key _ => ("put", key)
  | .delete key => ("delete", key)

/-- Counts an access and tells whether it fails. -/
def count (r : Rehearsal) (a : Access) : Option Fault × Rehearsal :=
  let (kind, key) := describe a
  let n := (r.made.get? kind).getD 0 + 1
  let fails := ((r.failing.get? kind).getD []).contains n
  (if fails then some (.registry (.transport ("injected " ++ kind ++ " failure on " ++ key))) else none,
    { r with made := r.made.insert kind n })

/-- What is in the way of starting a command. -/
def obstacle? (r : Rehearsal) (here : String) (files : FileTree) (c : Command) : Option OsFault :=
  r.programs.bind fun programs => Machine.obstacle? programs here files c

instance : Host Rehearsal where
  run here files c r := match r.obstacle? here files c with
    | some e => ((0, .error (.launch c.program e.message)), r)
    | none => r.next c
  answer _ r := ((0, .error (.internal "no orchestrator takes part in a rehearsal")), r)
  exchange request r := r.respond request.url
  disturb _ r := (none, r)
  refuse a r := r.count a

end Rehearsal

end Rollout
