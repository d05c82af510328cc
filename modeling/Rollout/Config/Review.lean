import Rollout.Config.Engine
import Rollout.Fault
import Rollout.Url.Parse

/-!
# Rollout.Config.Review — what is wrong with a configuration

A review lists errors, which stop an installation, and warnings.  Checks of single members come first, by rising
path; rules that relate several members follow.

* `Config.memberErrors`: ranges, lengths and addresses.
* `Config.planErrors`: names, keys and variables that clash.
* `Config.review`, `Config.accept`: the whole review, and the configuration's first error as a fault.
-/

namespace Rollout.Config

/-- An error and the member it concerns. -/
structure Finding where
  field : String
  message : String
deriving DecidableEq, Repr, Inhabited

/-- Errors and warnings. -/
structure Review where
  errors : List Finding
  warnings : List String
deriving DecidableEq, Repr, Inhabited

def Review.isValid (r : Review) : Bool := r.errors.isEmpty

/-! ## Single members -/

/-- The error of a member that fails a check. -/
def failed (field check : String) : Finding := ⟨field, field ++ " failed the '" ++ check ++ "' check"⟩

def require (holds : Bool) (field check : String) : List Finding := if holds then [] else [failed field check]

/-- The path of the plan at a place. -/
def planPath (i : Nat) : String := "plans[" ++ toString i ++ "]"

def planMembers (i : Nat) (p : Plan) : List Finding :=
  require (p.name ≠ "") (planPath i ++ ".name") "length" ++
    require (p.key ≠ "") (planPath i ++ ".config_key") "length"

/-- The members that fail a check of their own, in the order of the configuration. -/
def memberChecks (c : Config) : List Finding :=
  require (c.registry.address.all fun a => (Url.parse? a).isSome) "registry.address" "url" ++
  require (c.provisioner.parallelism.all fun n => 1 ≤ n && n ≤ 256) "provisioner.parallelism" "range" ++
  require (1 ≤ c.provisioner.applyTimeout) "provisioner.apply_timeout_secs" "range" ++
  require (1 ≤ c.provisioner.commandTimeout) "provisioner.command_timeout_secs" "range" ++
  require (1 ≤ c.retry.interval) "retry.interval_secs" "range" ++
  require (1 ≤ c.retry.deadline) "retry.deadline_secs" "range" ++
  require (c.orchestrator.model ≠ "") "orchestrator.model" "length" ++
  require (1 ≤ c.orchestrator.pollInterval) "orchestrator.poll_interval_secs" "range" ++
  require (1 ≤ c.orchestrator.waitTimeout) "orchestrator.wait_timeout_secs" "range" ++
  require (c.orchestrator.acceptedStatuses ≠ []) "orchestrator.accepted_statuses" "length" ++
  (c.plans.zipIdx.flatMap fun (p, i) => planMembers i p) ++
  require (c.upgrade.application ≠ "") "upgrade.database.application" "length" ++
  require (c.upgrade.component ≠ "") "upgrade.database.component" "length" ++
  require (c.upgrade.stateKey ≠ "") "upgrade.database.state_key" "length"

/-- The members that fail a check of their own, by rising path. -/
def memberErrors (c : Config) : List Finding :=
  (memberChecks c).mergeSort fun a b => a.field ≤ b.field

/-! ## Rules between members -/

def registryErrors (c : Config) : List Finding :=
  if c.registry.backend = .http ∧ c.registry.address.getD "" = "" then
    [⟨"registry.address", "Registry address is required when using the http backend"⟩]
  else []

def registryWarnings (c : Config) : List String :=
  match c.registry.backend with
  | .http => []
  | .directory => if c.registry.path.isNone then ["registry.path not set, using .converge/registry"] else []
  | .memory => ["Memory registry selected: nothing will be persisted"]

def bindingErrors (i : Nat) (b : Bindings) : List Finding :=
  b.duplicates.map fun v => ⟨planPath i ++ ".tfvars", "Variable " ++ v ++ " is bound more than once"⟩

def bindingWarnings (i : Nat) (b : Bindings) : List String :=
  let bound := b.all.map (·.var)
  (b.preserve.keys.filter fun v => !bound.contains v).map fun v =>
    planPath i ++ ".tfvars.preserve: " ++ v ++ " is not produced by any binding"

/-- What is wrong with the plan at a place, given the plans before it. -/
def planErrorsAt (stateKey : String) (before : List Plan) (i : Nat) (p : Plan) : List Finding :=
  (if (before.map (·.name)).contains p.name then
    [⟨planPath i ++ ".name", "Duplicate plan name: " ++ p.name⟩] else []) ++
  (if (before.map (·.key)).contains p.key then
    [⟨planPath i ++ ".config_key", "Registry key " ++ p.key ++ " is used by more than one plan"⟩] else []) ++
  (if p.key = stateKey then
    [⟨planPath i ++ ".config_key",
      "Registry key " ++ p.key ++ " collides with the database upgrade state key"⟩] else []) ++
  bindingErrors i p.bindings

/-- What is wrong between the plans. -/
def planErrors (c : Config) : List Finding :=
  c.plans.zipIdx.flatMap fun (p, i) => planErrorsAt c.upgrade.stateKey (c.plans.take i) i p

def planWarnings (c : Config) : List String :=
  if c.plans = [] then ["No plans defined in configuration"]
  else c.plans.zipIdx.flatMap fun (p, i) => bindingWarnings i p.bindings

def retryWarnings (c : Config) : List String :=
  if c.retry.deadline < c.retry.interval then
    ["retry.deadline_secs (" ++ toString c.retry.deadline ++ ") is shorter than retry.interval_secs (" ++
      toString c.retry.interval ++ "): a locked state is never retried"]
  else []

/-- The review of a configuration. -/
def review (c : Config) : Review :=
  ⟨c.memberErrors ++ c.registryErrors ++ c.planErrors, c.registryWarnings ++ c.planWarnings ++ c.retryWarnings⟩

/-- The review of a configuration without errors; otherwise its first error. -/
def accept (c : Config) : Except Fault Review :=
  match c.review.errors with
  | [] => .ok c.review
  | e :: _ => .error (.config (.invalid e.message (some e.field)))

end Rollout.Config
