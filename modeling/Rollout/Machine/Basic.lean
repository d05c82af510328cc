import Rollout.Machine.Launch
import Rollout.Machine.Shell
import Rollout.World.Basic

/-!
# Rollout.Machine — a host with a few plain programs

A machine runs commands among the files of the world: a small shell and the programs that it knows.  It has no
orchestrator and reaches no server, and it lets every step on files and every access to the store happen.

* `Machine.run`: a command, from its start to its end or to the end of its time.
-/

namespace Rollout

/-- A machine; the list holds the programs that can be started by their names. -/
structure Machine where
  programs : List String
deriving DecidableEq, Repr, Inhabited

namespace Machine

/-- The machine with all programs that the shell knows. -/
def plain : Machine := ⟨Shell.programs⟩

/-- The machine on which nothing can be started. -/
def bare : Machine := ⟨[]⟩

/-- Runs a command. -/
def run (m : Machine) (here : String) (files : FileTree) (c : Command) : Span × Except CommandFault CommandOutput :=
  match obstacle? m.programs here files c with
  | some e => (0, .error (.launch c.program e.message))
  | none =>
    let place := match c.directory with
      | some d => ((files.locate here d).toOption).getD here
      | none => here
    let s := Shell.start (.start place files c.env []) c.program c.args
    let took := (s.jobs.filter (·.holds)).foldl (fun t job => max t job.finish) (if s.endless then Span.bound else s.took)
    if c.timeout < took then (c.timeout, .error (.timedOut c.timeout))
    else
      let code : Option Int := if s.killed.isSome then none else some s.status
      (took, .ok ⟨code, Text.decodeLossy (s.printedTo 0), Text.decodeLossy (s.printedTo 1)⟩)

instance : Host Machine where
  run here files c m := (m.run here files c, m)
  answer _ m := ((0, .error (.internal "a machine has no orchestrator")), m)
  exchange _ m := (none, m)
  disturb _ m := (none, m)
  refuse _ m := (none, m)

end Machine

end Rollout
