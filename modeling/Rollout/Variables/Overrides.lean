import Rollout.Fault
import Rollout.Json.Decode
import Rollout.Text.Blank
import Rollout.Variables.Merge

/-!
# Rollout.Variables.Overrides — variables set on the command line

An override is written `NAME=VALUE`.  The value is document text if it can be read as such, otherwise it is taken
as it stands.
-/

namespace Rollout.Variables

/-- The text before and after the first equals sign. -/
def splitEquals (s : String) : Option (String × String) :=
  match s.toList.dropWhile (· ≠ '=') with
  | [] => none
  | _ :: value => some (String.ofList (s.toList.takeWhile (· ≠ '=')), String.ofList value)

/-- One override. -/
def parseOverride (raw : String) : Except Fault (String × Json) :=
  match splitEquals raw with
  | none => .error (.config (.invalidOverride raw "expected NAME=VALUE"))
  | some (name, value) =>
    let name := Text.trim name
    if name = "" then .error (.config (.invalidOverride raw "empty variable name"))
    else match Json.ofText value with
      | .ok j => .ok (name, j)
      | .error _ => .ok (name, .str value)

/-- Overrides in the order given; of two for one variable the later stays. -/
def parseOverrides (raw : List String) : Except Fault Variables := do
  return Table.ofList (← raw.mapM parseOverride)

end Rollout.Variables
