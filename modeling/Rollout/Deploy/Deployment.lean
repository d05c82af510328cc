import Rollout.Deploy.Steps
import Rollout.Upgrade.Database

/-!
# Rollout.Deploy.Deployment — an installation and its plans

A deployment joins a configuration and a manifest with the registry and the orchestrator that the configuration
names.  From it come the plans that can be run.

* `Deployment.plan`, `Deployment.provisioner`: what is known by the name of a plan.
* `Deployment.deployPlan`, `Deployment.destroyPlan`, `Deployment.upgradePlan`: the steps to run.
-/

namespace Rollout

/-- An installation. -/
structure Deployment where
  config : Config
  manifest : Manifest
  registry : Registry
  orchestrator : Orchestrator

/-- What a deployment of a plan can be told. -/
structure DeployOptions where
  /-- The application to wait for, in place of the one configured. -/
  application : Option String
  /-- Variables that take precedence over all others. -/
  overrides : Variables
  /-- The components whose bindings count; without a list all of them. -/
  components : Option (List String)
  /-- Whether to apply what is persisted already. -/
  refresh : Bool

namespace DeployOptions

/-- A deployment with nothing said. -/
def default : DeployOptions := ⟨none, Table.empty, none, false⟩

end DeployOptions

namespace Deployment

/-- The plan of a name. -/
def plan (d : Deployment) (name : String) : Except Fault Config.Plan :=
  match d.config.plan? name with
  | some p => .ok p
  | none => .error (.config (.unknownPlan name))

/-- The provisioner of a plan; it keeps its state where the registry does if that is possible. -/
def provisionerOf (d : Deployment) (p : Config.Plan) : Provisioner :=
  Provisioner.ofConfig d.config p d.registry.endpoint?

/-- The provisioner of the plan of a name. -/
def provisioner (d : Deployment) (name : String) : Except Fault Provisioner :=
  (d.plan name).map d.provisionerOf

/-- How long to wait for applications. -/
def wait (d : Deployment) : Wait := .ofConfig d.config.orchestrator

/-- The application of a plan's variables. -/
def planApply (d : Deployment) (p : Config.Plan) (options : DeployOptions) : PlanApply :=
  ⟨d.registry, d.provisionerOf p, p.key, ⟨p.bindings, d.manifest, some options.overrides, options.components⟩,
    d.config.retry⟩

variable {σ : Type} [Host σ]

/-- The step that brings a plan about. -/
def bringAbout (d : Deployment) (p : Config.Plan) (options : DeployOptions) : Step σ :=
  let apply := d.planApply p options
  match options.application.or p.application with
  | some application =>
    AppDeploy.step ⟨apply, d.orchestrator, application, d.config.orchestrator.acceptedStatuses, d.wait⟩
      options.refresh
  | none => apply.step options.refresh

/-- The steps that deploy a plan. -/
def deployPlan (d : Deployment) (name : String) (options : DeployOptions) : Except Fault (List (Step σ)) := do
  let p ← d.plan name
  return [(d.provisionerOf p).initStep, d.bringAbout p options]

/-- The steps that destroy a plan. -/
def destroyPlan (d : Deployment) (name : String) : Except Fault (List (Step σ)) := do
  let p ← d.plan name
  return [(d.provisionerOf p).initStep, PlanDestroy.step ⟨d.registry, d.provisionerOf p, p.key, d.config.retry⟩]

/-- The step that forgets how far the database upgrade has come. -/
def resetStep (d : Deployment) : Step σ := d.registry.resetStep d.config.upgrade.stateKey

/-- The upgrade of the database, if its phases can be told apart. -/
def databaseUpgrade (d : Deployment) : Except Fault DatabaseUpgrade :=
  match DatabasePhase.ranks? with
  | some ranks =>
    .ok ⟨d.orchestrator, d.registry, d.manifest, d.config.upgrade, d.wait.delay, ranks⟩
  | none => .error (.internal "database upgrade phases are not unique")

/-- The steps that upgrade the database, from the start if `reset`. -/
def upgradePlan (d : Deployment) (reset : Bool) : Except Fault (List (Step σ)) := do
  let upgrade ← d.databaseUpgrade
  return (if reset then [d.resetStep] else []) ++ [upgrade.step]

end Deployment

end Rollout
