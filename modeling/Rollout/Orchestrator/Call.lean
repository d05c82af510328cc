import Rollout.Orchestrator.Application

/-!
# Rollout.Orchestrator.Call — what an orchestrator can be asked

* `Call`: the questions and orders; `Call.Answer` is the kind of answer to each.
* `Call.changes`: whether a call changes what runs.
-/

namespace Rollout

/-- A question or an order to an orchestrator. -/
inductive Call
  | application (name : String)
  | leader (application : String)
  | action (unit name : String) (params : Table String)
  | scale (application : String) (units : Nat)
  | refresh (application : String)
  | latestRevision (charm channel : String)
  | upgradeStack (unit : String)
deriving DecidableEq

namespace Call

/-- The kind of answer to a call. -/
@[reducible] def Answer : Call → Type
  | application _ => Option Application
  | leader _ => String
  | action .. => Table Json
  | scale .. => Unit
  | refresh _ => Unit
  | latestRevision .. => Option Nat
  | upgradeStack _ => List Json

/-- Whether a call changes what runs. -/
def changes : Call → Bool
  | action .. => true
  | scale .. => true
  | refresh _ => true
  | _ => false

end Call

end Rollout
