import Rollout.Config.Bindings
import Rollout.Path

/-!
# Rollout.Config.Engine — the configuration of an installation

Where variables are kept, how the provisioner and the orchestrator are run, which plans there are and how the
database upgrade is timed.  Every member has a default but the name, directory and key of a plan.
-/

namespace Rollout

namespace Config

/-- Where variables and upgrade progress are kept. -/
inductive Backend
  | directory
  | http
  | memory
deriving DecidableEq, Repr, Inhabited

def Backend.text : Backend → String
  | directory => "local"
  | http => "http"
  | memory => "memory"

structure Registry where
  backend : Backend
  address : Option String
  path : Option Path
  skipCertVerification : Bool
deriving DecidableEq

structure Provisioner where
  binary : Path
  plansDir : Path
  parallelism : Option Nat
  applyTimeout : Nat
  commandTimeout : Nat
  logLevel : String
  env : Table String
deriving DecidableEq

/-- How often and how long a locked remote state is tried again, in seconds. -/
structure Retry where
  interval : Nat
  deadline : Nat
deriving DecidableEq

structure Orchestrator where
  binary : Path
  model : String
  pollInterval : Nat
  waitTimeout : Nat
  acceptedStatuses : List String
deriving DecidableEq

/-- A set of infrastructure that is applied as a whole. -/
structure Plan where
  name : String
  directory : Path
  key : String
  bindings : Bindings
  application : Option String
deriving DecidableEq

/-- The database upgrade, with timeouts in seconds. -/
structure Upgrade where
  application : String
  component : String
  stateKey : String
  scaleTimeout : Nat
  primaryUnitTimeout : Nat
  settleTimeout : Nat
deriving DecidableEq

end Config

/-- The configuration of an installation. -/
structure Config where
  registry : Config.Registry
  provisioner : Config.Provisioner
  retry : Config.Retry
  orchestrator : Config.Orchestrator
  manifest : Option Path
  plans : List Config.Plan
  upgrade : Config.Upgrade
deriving DecidableEq

namespace Config

def Registry.default : Registry := ⟨.directory, none, none, true⟩

def Provisioner.default : Provisioner := ⟨"terraform", "plans", none, 1200, 600, "INFO", Table.empty⟩

def Retry.default : Retry := ⟨60, 300⟩

def Orchestrator.default : Orchestrator := ⟨"juju", "openstack", 10, 600, ["active", "unknown"]⟩

def Upgrade.default : Upgrade := ⟨"mysql", "mysql-k8s", "mysql_k8s_upgrade_state", 600, 900, 3600⟩

/-- The configuration in which every member has its default. -/
def default : Config := ⟨.default, .default, .default, .default, none, [], .default⟩

instance : Inhabited Config := ⟨default⟩

/-- The first plan of a name. -/
def plan? (c : Config) (name : String) : Option Plan := c.plans.find? (·.name = name)

/-- The directory of a plan. -/
def planDir (c : Config) (p : Plan) : Path := c.provisioner.plansDir.join p.directory

/-! ## Wire form -/

def Registry.toJson (r : Registry) : Json :=
  .obj [("backend", .str r.backend.text), ("address", .ofOption .str r.address), ("path", .ofOption .str r.path),
    ("skip_cert_verification", .bool r.skipCertVerification)]

def Provisioner.toJson (p : Provisioner) : Json :=
  .obj [("binary", .str p.binary), ("plans_dir", .str p.plansDir), ("parallelism", .ofOption .nat p.parallelism),
    ("apply_timeout_secs", .nat p.applyTimeout), ("command_timeout_secs", .nat p.commandTimeout),
    ("log_level", .str p.logLevel), ("env", .ofTable (p.env.map .str))]

def Retry.toJson (r : Retry) : Json :=
  .obj [("interval_secs", .nat r.interval), ("deadline_secs", .nat r.deadline)]

def Orchestrator.toJson (o : Orchestrator) : Json :=
  .obj [("binary", .str o.binary), ("model", .str o.model), ("poll_interval_secs", .nat o.pollInterval),
    ("wait_timeout_secs", .nat o.waitTimeout), ("accepted_statuses", .strs o.acceptedStatuses)]

def Plan.toJson (p : Plan) : Json :=
  .obj [("name", .str p.name), ("directory", .str p.directory), ("config_key", .str p.key),
    ("tfvars", p.bindings.toJson), ("application", .ofOption .str p.application)]

def Upgrade.toJson (u : Upgrade) : Json :=
  .obj [("application", .str u.application), ("component", .str u.component), ("state_key", .str u.stateKey),
    ("scale_timeout_secs", .nat u.scaleTimeout), ("primary_unit_timeout_secs", .nat u.primaryUnitTimeout),
    ("settle_timeout_secs", .nat u.settleTimeout)]

def toJson (c : Config) : Json :=
  .obj [("registry", c.registry.toJson), ("provisioner", c.provisioner.toJson), ("retry", c.retry.toJson),
    ("orchestrator", c.orchestrator.toJson), ("manifest", .ofOption .str c.manifest),
    ("plans", .arr (c.plans.map Plan.toJson)), ("upgrade", .obj [("database", c.upgrade.toJson)])]

def Backend.decoder : Decoder Backend :=
  Decoder.enumeration ([Backend.directory, .http, .memory].map fun b => (b.text, b))

def Registry.decoder : Decoder Registry :=
  Fields.closed "RegistryConfig"
    (Registry.mk <$> Fields.withDefault "backend" Backend.decoder Registry.default.backend
      <*> Fields.optional "address" Decoder.string
      <*> Fields.optional "path" Decoder.path
      <*> Fields.withDefault "skip_cert_verification" Decoder.bool Registry.default.skipCertVerification)

def Provisioner.decoder : Decoder Provisioner :=
  let d := Provisioner.default
  Fields.closed "ProvisionerConfig"
    (Provisioner.mk <$> Fields.withDefault "binary" Decoder.path d.binary
      <*> Fields.withDefault "plans_dir" Decoder.path d.plansDir
      <*> Fields.optional "parallelism" Decoder.u32
      <*> Fields.withDefault "apply_timeout_secs" Decoder.u64 d.applyTimeout
      <*> Fields.withDefault "command_timeout_secs" Decoder.u64 d.commandTimeout
      <*> Fields.withDefault "log_level" Decoder.string d.logLevel
      <*> Fields.withDefault "env" (Decoder.table Decoder.string) d.env)

def Retry.decoder : Decoder Retry :=
  Fields.closed "RetryConfig"
    (Retry.mk <$> Fields.withDefault "interval_secs" Decoder.u64 Retry.default.interval
      <*> Fields.withDefault "deadline_secs" Decoder.u64 Retry.default.deadline)

def Orchestrator.decoder : Decoder Orchestrator :=
  let d := Orchestrator.default
  Fields.closed "OrchestratorConfig"
    (Orchestrator.mk <$> Fields.withDefault "binary" Decoder.path d.binary
      <*> Fields.withDefault "model" Decoder.string d.model
      <*> Fields.withDefault "poll_interval_secs" Decoder.u64 d.pollInterval
      <*> Fields.withDefault "wait_timeout_secs" Decoder.u64 d.waitTimeout
      <*> Fields.withDefault "accepted_statuses" (Decoder.list Decoder.string) d.acceptedStatuses)

def Plan.decoder : Decoder Plan :=
  Fields.closed "PlanConfig"
    (Plan.mk <$> Fields.required "name" Decoder.string
      <*> Fields.required "directory" Decoder.path
      <*> Fields.required "config_key" Decoder.string
      <*> Fields.withDefault "tfvars" Bindings.decoder Bindings.empty
      <*> Fields.optional "application" Decoder.string)

def Upgrade.decoder : Decoder Upgrade :=
  let d := Upgrade.default
  Fields.closed "DatabaseUpgradeConfig"
    (Upgrade.mk <$> Fields.withDefault "application" Decoder.string d.application
      <*> Fields.withDefault "component" Decoder.string d.component
      <*> Fields.withDefault "state_key" Decoder.string d.stateKey
      <*> Fields.withDefault "scale_timeout_secs" Decoder.u64 d.scaleTimeout
      <*> Fields.withDefault "primary_unit_timeout_secs" Decoder.u64 d.primaryUnitTimeout
      <*> Fields.withDefault "settle_timeout_secs" Decoder.u64 d.settleTimeout)

def decoder : Decoder Config :=
  Fields.closed "EngineConfig"
    (Config.mk <$> Fields.withDefault "registry" Registry.decoder .default
      <*> Fields.withDefault "provisioner" Provisioner.decoder .default
      <*> Fields.withDefault "retry" Retry.decoder .default
      <*> Fields.withDefault "orchestrator" Orchestrator.decoder .default
      <*> Fields.optional "manifest" Decoder.path
      <*> Fields.withDefault "plans" (Decoder.list Plan.decoder) []
      <*> Fields.withDefault "upgrade"
        (Fields.closed "UpgradeConfig" (Fields.withDefault "database" Upgrade.decoder .default)) .default)

end Config

end Rollout
