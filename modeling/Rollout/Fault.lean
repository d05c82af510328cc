/-!
# Rollout.Fault — what can go wrong

Every operation that can fail names a cause.  Causes are grouped by the part of the system where they arise;
`Fault.message` is the one place that words them.  A `Panic` is not among them.
-/

namespace Rollout

/-- Causes in the configuration. -/
inductive ConfigFault
  | fileNotFound (path : String)
  | unreadable (message : String) (location : Option String)
  | invalid (message : String) (field : Option String)
  | unknownPlan (name : String)
  | invalidOverride (raw message : String)
deriving DecidableEq, Repr, Inhabited

/-- Causes in the registry. -/
inductive RegistryFault
  | transport (message : String)
  | notFound (key : String)
  | corrupted (key message : String)
  | serialization (message : String)
  | invalidKey (key : String)
  | unsupported (operation backend : String)
deriving DecidableEq, Repr, Inhabited

/-- Causes in the provisioner. -/
inductive ProvisionerFault
  | stateLocked (plan stderr : String)
  | commandFailed (plan command stderr : String)
  | timeout (plan command : String) (seconds : Nat)
  | launch (message : String)
  | invalidOutput (message : String)
deriving DecidableEq, Repr, Inhabited

/-- Causes in the orchestrator. -/
inductive OrchestratorFault
  | applicationNotFound (application model : String)
  | leaderNotFound (application model : String)
  | actionFailed (unit action message : String)
  | timeout (target expected lastObserved : String)
  | commandFailed (command stderr : String)
  | launch (message : String)
  | invalidResponse (message : String)
deriving DecidableEq, Repr, Inhabited

/-- What went wrong. -/
inductive Fault
  | config (cause : ConfigFault)
  | registry (cause : RegistryFault)
  | provisioner (cause : ProvisionerFault)
  | orchestrator (cause : OrchestratorFault)
  /-- A phase of an upgrade failed; the remediation tells the operator what to do. -/
  | upgrade (phase reason remediation : String)
  | io (message : String)
  | internal (message : String)
deriving DecidableEq, Repr, Inhabited

/-- What brings the whole program down.  It is no fault: no part of the program deals with it. -/
structure Panic where
  message : String
deriving DecidableEq, Repr, Inhabited

namespace ConfigFault

def message : ConfigFault → String
  | fileNotFound path => "Configuration file not found: " ++ path
  | unreadable message _ => "Failed to parse configuration: " ++ message
  | invalid message _ => "Configuration validation failed: " ++ message
  | unknownPlan name => "Unknown plan: " ++ name
  | invalidOverride raw message => "Invalid override '" ++ raw ++ "': " ++ message

end ConfigFault

namespace RegistryFault

def message : RegistryFault → String
  | transport message => "Registry transport failure: " ++ message
  | notFound key => "Registry key not found: " ++ key
  | corrupted key message => "Registry value for '" ++ key ++ "' is corrupted: " ++ message
  | serialization message => "Registry serialization error: " ++ message
  | invalidKey key => "Invalid registry key: '" ++ key ++ "'"
  | unsupported operation backend =>
    "Operation '" ++ operation ++ "' is not supported by the " ++ backend ++ " registry"

end RegistryFault

namespace ProvisionerFault

def message : ProvisionerFault → String
  | stateLocked plan _ => "Remote state of plan '" ++ plan ++ "' is locked"
  | commandFailed plan command stderr => "'" ++ command ++ "' failed for plan '" ++ plan ++ "': " ++ stderr
  | timeout plan command seconds =>
    "'" ++ command ++ "' for plan '" ++ plan ++ "' timed out after " ++ toString seconds ++ "s"
  | launch message => "Failed to launch provisioner: " ++ message
  | invalidOutput message => "Invalid provisioner output: " ++ message

end ProvisionerFault

namespace OrchestratorFault

def message : OrchestratorFault → String
  | applicationNotFound application model =>
    "Application '" ++ application ++ "' not found in model '" ++ model ++ "'"
  | leaderNotFound application model =>
    "No leader unit found for '" ++ application ++ "' in model '" ++ model ++ "'"
  | actionFailed unit action message => "Action '" ++ action ++ "' on " ++ unit ++ " failed: " ++ message
  | timeout target expected lastObserved =>
    "Timed out waiting for " ++ target ++ " to reach " ++ expected ++ "; last observed: " ++ lastObserved
  | commandFailed command stderr => "'" ++ command ++ "' failed: " ++ stderr
  | launch message => "Failed to launch orchestrator: " ++ message
  | invalidResponse message => "Invalid orchestrator response: " ++ message

end OrchestratorFault

namespace Fault

/-- The wording of a fault. -/
def message : Fault → String
  | config cause => "Configuration error: " ++ cause.message
  | registry cause => "Registry error: " ++ cause.message
  | provisioner cause => "Provisioner error: " ++ cause.message
  | orchestrator cause => "Orchestrator error: " ++ cause.message
  | upgrade phase reason remediation => phase ++ ": " ++ reason ++ "\n" ++ remediation
  | io message => "IO error: " ++ message
  | internal message => "Internal error: " ++ message

/-- Whether another holder had the lock on the remote state. -/
def isStateLocked : Fault → Bool
  | provisioner (.stateLocked ..) => true
  | _ => false

/-- Whether something asked for by name does not exist. -/
def isNotFound : Fault → Bool
  | registry (.notFound ..) => true
  | orchestrator (.applicationNotFound ..) => true
  | _ => false

/-- Whether time ran out. -/
def isTimeout : Fault → Bool
  | provisioner (.timeout ..) => true
  | orchestrator (.timeout ..) => true
  | _ => false

/-- Whether the other side could not be reached at all. -/
def isTransport : Fault → Bool
  | registry (.transport ..) => true
  | provisioner (.launch ..) => true
  | orchestrator (.launch ..) => true
  | _ => false

end Fault

end Rollout
