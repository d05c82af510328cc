import Rollout.Path
import Rollout.Table
import Rollout.Time.Span

/-!
# Rollout.Command — external programs

A command names a program, its arguments and where and how long it may run.  It ends with an exit code and what
it printed, or it could not be started, or it ran out of time.
-/

namespace Rollout

/-- A program to be run. -/
structure Command where
  program : Path
  args : List String
  /-- Where it runs; nothing stands for the current directory. -/
  directory : Option Path
  /-- What is added to the environment. -/
  env : Table String
  timeout : Span
deriving DecidableEq

/-- How a program ended; a program killed by a signal has no code. -/
structure CommandOutput where
  code : Option Int
  stdout : String
  stderr : String
deriving DecidableEq, Repr, Inhabited

/-- Why there is no output. -/
inductive CommandFault
  | launch (program message : String)
  | timedOut (limit : Span)
deriving DecidableEq, Repr, Inhabited

namespace Command

/-- Program and arguments in a row. -/
def line (c : Command) : String := String.join (c.program :: c.args.map fun a => " " ++ a)

/-- The time a command has when nothing else is said. -/
def defaultTimeout : Span := Span.ofSeconds 600

end Command

namespace CommandOutput

def success (o : CommandOutput) : Bool := o.code = some 0

end CommandOutput

namespace CommandFault

def message : CommandFault → String
  | launch program message => "failed to run " ++ program ++ ": " ++ message
  | timedOut limit => "timed out after " ++ toString limit.seconds ++ "s"

end CommandFault

end Rollout
