import Rollout.Deploy.Apply
import Rollout.Orchestrator.Wait
import Rollout.Plan.Run

/-!
# Rollout.Deploy.Steps — the steps of deploying and destroying a plan

* `initStep`: makes the directory of a plan ready.
* `applyStep`: applies the variables of a plan.
* `applicationStep`: applies the variables of a plan and waits for the application it deploys.
* `destroyStep`: destroys what a plan has brought about and forgets its variables.
* `resetStep`: forgets how far an upgrade has come.
-/

namespace Rollout

variable {σ : Type} [Host σ]

/-- Makes the directory of a plan ready. -/
def Provisioner.initStep (p : Provisioner) : Step σ where
  name := "Initialise provisioner"
  description := "Initialising plan " ++ p.plan
  check := Step.always
  body := Step.endOf <| Risky.lift do
    p.init
    return .completed

namespace PlanApply

/-- Whether there are other variables to apply. -/
def check (p : PlanApply) : Act σ Outcome := do
  if ← p.isCurrent then return Outcome.skipped.withMessage "variables unchanged" else return .completed

/-- Applies the variables and tells how many there are. -/
def run (p : PlanApply) : Risky σ Outcome := do
  let vars ← p.apply
  return Outcome.completed.withMessage ("applied " ++ toString vars.keys.length ++ " variable(s)")

/-- Applies the variables of a plan; with force also when they are those persisted. -/
def step (p : PlanApply) (force : Bool) : Step σ where
  name := "Apply variables"
  description := "Applying configuration of plan " ++ p.provisioner.plan
  check := if force then Step.always else Step.outcomeOf p.check
  body := Step.endOf p.run

end PlanApply

/-- The application that a plan deploys. -/
structure AppDeploy where
  apply : PlanApply
  orchestrator : Orchestrator
  application : String
  /-- The statuses that the application has to reach. -/
  accepted : List String
  wait : Wait

namespace AppDeploy

/-- Whether there are other variables to apply, or the application has not settled. -/
def check (d : AppDeploy) : Act σ Outcome := do
  if ← d.apply.isCurrent then
    let app ← d.orchestrator.ask (.application d.application)
    if app.any fun a => a.settled d.accepted then
      return Outcome.skipped.withMessage (d.application ++ " already deployed")
    else return .completed
  else return .completed

/-- Applies the variables and waits until the application has settled. -/
def run (d : AppDeploy) : Risky σ Outcome := do
  let _ ← d.apply.apply
  Risky.lift (Act.publish ("Waiting for " ++ d.application ++ " to reach " ++ String.intercalate "|" d.accepted))
  let app ← Risky.lift (d.wait.settled d.orchestrator d.application d.accepted)
  return Outcome.completed.withMessage (d.application ++ " is " ++ app.status)

/-- Deploys an application; with force also when nothing is to be done. -/
def step (d : AppDeploy) (force : Bool) : Step σ where
  name := "Deploy application"
  description := "Deploying " ++ d.application
  check := if force then Step.always else Step.outcomeOf d.check
  body := Step.endOf d.run

end AppDeploy

/-- The destruction of what a plan has brought about. -/
structure PlanDestroy where
  registry : Registry
  provisioner : Provisioner
  /-- The key under which the variables of the plan are persisted. -/
  key : String
  retry : Config.Retry

namespace PlanDestroy

/-- Whether the plan has brought anything about. -/
def check (d : PlanDestroy) : Act σ Outcome := do
  if ← d.provisioner.hasResources then return .completed
  else return Outcome.skipped.withMessage ("plan " ++ d.provisioner.plan ++ " holds no resources")

/-- Destroys what the plan has brought about, and then forgets its variables. -/
def run (d : PlanDestroy) : Risky σ Outcome := do
  Retry.run d.retry d.provisioner.destroy
  let _ ← Risky.lift (d.registry.deleteIfPresent d.key)
  return .completed

def step (d : PlanDestroy) : Step σ where
  name := "Destroy plan"
  description := "Destroying resources of plan " ++ d.provisioner.plan
  check := Step.outcomeOf d.check
  body := Step.endOf d.run

end PlanDestroy

/-- Forgets how far an upgrade has come. -/
def Registry.resetStep (r : Registry) (key : String) : Step σ where
  name := "Reset upgrade state"
  description := "Resetting upgrade state " ++ key
  check := Step.always
  body := Step.endOf <| Risky.lift do
    let present ← r.deleteIfPresent key
    return Outcome.completed.withMessage (key ++ if present then " cleared" else " was not set")

end Rollout
