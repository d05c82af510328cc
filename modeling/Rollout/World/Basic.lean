import Rollout.Command
import Rollout.Fault
import Rollout.Files.Tree
import Rollout.Http.Message
import Rollout.Orchestrator.Call

/-!
# Rollout.World — what the engine acts on

The engine reads and changes files, a shared store of documents and a clock, and it asks programs, orchestrators and
servers whose answers it cannot foresee.  All of that is the world.  What answers is a host: any type of states with
a rule for each kind of question.  A statement about every host is a statement about every behaviour of
the programs and servers outside.

* `Host`: the rules by which the outside answers, and by which accesses to files and to the store are refused.
* `World`: a state of the host, the clock, the files, the store and a log of all that was done.
* `Act`: an action, which changes the world and ends with a result or a fault.  A fault undoes nothing.
-/

namespace Rollout

/-- An access to the store of documents. -/
inductive Access
  | get (key : String)
  | put (key : String) (value : Json)
  | delete (key : String)

/-- A step on files. -/
inductive FileAction
  | read (path : Path)
  | create (path : Path)
  | fill (path : Path) (text : String)
  | sync (path : Path)
  | rename (source target : Path)
  | remove (path : Path)
  | makeDir (path : Path)
deriving DecidableEq

/-- A step on files that fails; of a text being written the first characters may have been kept. -/
structure Disturbance where
  fault : OsFault
  kept : Nat

/-- The rules by which the outside answers. -/
class Host (σ : Type) where
  /-- Runs a program in a current directory among files; it takes some time. -/
  run : (here : String) → FileTree → Command → σ → (Span × Except CommandFault CommandOutput) × σ
  /-- Answers a call to an orchestrator; it takes some time. -/
  answer : (c : Call) → σ → (Span × Except Fault c.Answer) × σ
  /-- Answers a request; nothing if the connection ends first. -/
  exchange : Http.Request → σ → Option Http.Response × σ
  /-- Lets a step on files fail. -/
  disturb : FileAction → σ → Option Disturbance × σ
  /-- Refuses an access to the store. -/
  refuse : Access → σ → Option Fault × σ

/-- One thing that was done. -/
inductive Event
  /-- A program was started, and these were the files it found. -/
  | command (c : Command) (files : FileTree)
  | call (c : Call)
  | request (r : Http.Request)
  | file (a : FileAction)
  /-- An access to the registry was made, and it succeeded or not. -/
  | access (a : Access) (granted : Bool)
  /-- A line of progress was published. -/
  | status (text : String)
  /-- A text was printed as a result. -/
  | printed (text : String)
  /-- A text was shown to the operator beside the results. -/
  | shown (text : String)

/-- What the engine acts on. -/
structure World (σ : Type) where
  host : σ
  /-- The time since the start. -/
  now : Span
  started : Instant
  /-- How many seconds the local time is ahead of the universal one. -/
  zone : Instant → Int
  /-- Who is at work. -/
  holder : String
  /-- The place of the current directory. -/
  here : String
  files : FileTree
  store : Table Json
  env : Table String
  /-- What the operator has typed that was not read yet. -/
  input : String
  /-- All that was done, the latest first. -/
  log : List Event

namespace World

variable {σ : Type}

/-- The world in which one more thing was done. -/
def note (e : Event) (w : World σ) : World σ := { w with log := e :: w.log }

/-- The world after some time. -/
def later (d : Span) (w : World σ) : World σ := { w with now := w.now + d }

/-- The date and time. -/
def date (w : World σ) : Instant := w.started.after w.now

/-- The date and time that a local clock shows. -/
def localDate (w : World σ) : Instant := w.date.ahead (w.zone w.date)

/-- Starts in a directory with nothing done, where the local time is the universal one. -/
def start (host : σ) (here : String) (files : FileTree) : World σ :=
  ⟨host, 0, ⟨0, 0, 0⟩, fun _ => 0, "", here, files, Table.empty, Table.empty, "", []⟩

end World

/-- An action: it changes the world and ends with a result or a fault. -/
def Act (σ : Type) (α : Type) : Type := World σ → Except Fault α × World σ

namespace Act

variable {σ α β : Type}

def pure (a : α) : Act σ α := fun w => (.ok a, w)

/-- One action after another; a fault ends both. -/
def bind (x : Act σ α) (f : α → Act σ β) : Act σ β := fun w =>
  match x w with
  | (.ok a, w) => f a w
  | (.error e, w) => (.error e, w)

instance : Monad (Act σ) where
  pure := Act.pure
  bind := Act.bind

/-- Ends with a fault. -/
def fail (e : Fault) : Act σ α := fun w => (.error e, w)

/-- The result of a computation without effects. -/
def ofExcept (r : Except Fault α) : Act σ α := fun w => (r, w)

/-- An action that cannot fail. -/
def lift (x : StateM (World σ) α) : Act σ α := fun w =>
  let (a, w) := x w
  (.ok a, w)

/-- The action with its end turned into a result. -/
def attempt (x : Act σ α) : Act σ (Except Fault α) := fun w =>
  let (r, w) := x w
  (.ok r, w)

/-- The action with its fault replaced. -/
def mapFault (f : Fault → Fault) (x : Act σ α) : Act σ α := fun w =>
  match x w with
  | (.ok a, w) => (.ok a, w)
  | (.error e, w) => (.error (f e), w)

/-- Reads off the world. -/
def asks (f : World σ → α) : Act σ α := fun w => (.ok (f w), w)

/-- Notes that something was done. -/
def note (e : Event) : Act σ Unit := fun w => (.ok (), w.note e)

/-- Lets some time pass. -/
def sleep (d : Span) : Act σ Unit := fun w => (.ok (), w.later d)

/-- Publishes a line of progress. -/
def publish (text : String) : Act σ Unit := note (.status text)

variable [Host σ]

/-- Runs a program. -/
def run (c : Command) : Act σ (Except CommandFault CommandOutput) := fun w =>
  let ((took, reply), host) := Host.run w.here w.files c w.host
  (.ok reply, ({ w with host }.note (.command c w.files)).later took)

/-- Calls an orchestrator. -/
def call (c : Call) : Act σ c.Answer := fun w =>
  let ((took, reply), host) := Host.answer c w.host
  (reply, { w with host }.later took)

/-- Sends a request. -/
def exchange (r : Http.Request) : Act σ (Option Http.Response) := fun w =>
  let (reply, host) := Host.exchange r w.host
  (.ok reply, { w with host }.note (.request r))

end Act

end Rollout
