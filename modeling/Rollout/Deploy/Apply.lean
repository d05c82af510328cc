import Rollout.Provisioner.Basic
import Rollout.Provisioner.Retry
import Rollout.Variables.Reconcile

/-!
# Rollout.Deploy.Apply — applying the variables of a plan

The variables of a plan are computed from those persisted and from what is desired.  They are persisted only when
the provisioner has applied them, so what is persisted is what was applied last.

* `PlanApply.isCurrent`: whether the persisted variables are those desired.
* `PlanApply.apply`: computes, applies and persists.
-/

namespace Rollout

/-- The application of a plan's variables. -/
structure PlanApply where
  registry : Registry
  provisioner : Provisioner
  /-- The key under which the variables are persisted. -/
  key : String
  desired : Variables.Desired
  retry : Config.Retry

namespace PlanApply

variable {σ : Type} [Host σ]

/-- The variables that the plan ought to have. -/
def intended (p : PlanApply) : Act σ Variables := Variables.reconcile p.registry p.key p.desired false

/-- Whether the persisted variables are those that the plan ought to have. -/
def isCurrent (p : PlanApply) : Act σ Bool := do
  match ← p.registry.read Variables.decoder p.key with
  | none => return false
  | some persisted => return persisted.same (← p.intended)

/-- Applies the variables that the plan ought to have, and persists them. -/
def apply (p : PlanApply) : Risky σ Variables := do
  let vars ← Risky.lift p.intended
  Risky.lift (Act.publish ("Applying " ++ toString vars.keys.length ++ " variable(s) to plan " ++ p.provisioner.plan))
  Retry.run p.retry (p.provisioner.apply vars [])
  Risky.lift (Variables.persist p.registry p.key vars)
  return vars

end PlanApply

end Rollout
