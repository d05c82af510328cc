import Rollout.Config.Engine
import Rollout.Json.Decode
import Rollout.Provisioner.Backend
import Rollout.Provisioner.Signature
import Rollout.Variables.Merge

/-!
# Rollout.Provisioner — the program that provisions a plan

The provisioner works in the directory of a plan.  It is run once for each operation, with a time limit and a log of
its own, and the engine tells a held lock from other failures.

* `Provisioner.invoke`: one run of the program.
* `Provisioner.init`, `apply`, `destroy`, …: the operations.
-/

namespace Rollout

/-- How the provisioner is run for a plan. -/
structure Provisioner where
  plan : String
  path : Path
  binary : Path
  env : Table String
  logLevel : String
  parallelism : Option Nat
  backend : Option StateBackend
  applyTimeout : Span
  commandTimeout : Span
  signature : LockSignature
deriving DecidableEq

namespace Provisioner

/-- The file in the directory of a plan that holds its variables. -/
def variablesFile : Path := "terraform.tfvars.json"

/-- The provisioner of a plan with the defaults for all else. -/
def forPlan (plan : String) (path : Path) : Provisioner :=
  let d := Config.Provisioner.default
  ⟨plan, path, d.binary, d.env, d.logLevel, d.parallelism, none, Span.ofSeconds d.applyTimeout,
    Span.ofSeconds d.commandTimeout, .default⟩

/-- The provisioner of a plan as configured; with an endpoint it keeps its state there. -/
def ofConfig (c : Config) (p : Config.Plan) (endpoint : Option String) : Provisioner :=
  let backend := endpoint.map fun e =>
    { StateBackend.forPlan e p.name with skipCertVerification := c.registry.skipCertVerification }
  ⟨p.name, c.planDir p, c.provisioner.binary, c.provisioner.env, c.provisioner.logLevel, c.provisioner.parallelism,
    backend, Span.ofSeconds c.provisioner.applyTimeout, Span.ofSeconds c.provisioner.commandTimeout, .default⟩

/-- The log of an operation, named after it and the local time of its start. -/
def logPath (p : Provisioner) (operation : String) (date : Instant) : Path :=
  p.path.join ("terraform-" ++ operation ++ "-" ++ date.stamp ++ ".log")

/-- What is added to the environment for an operation: where to log, and how much unless that is said already. -/
def environment (p : Provisioner) (operation : String) (date : Instant) (env : Table String) : Table String :=
  let own := p.env.insert "TF_LOG_PATH" (p.logPath operation date)
  if own.contains "TF_LOG" || env.contains "TF_LOG" then own else own.insert "TF_LOG" p.logLevel

/-- What a run of the program amounts to. -/
def outcome (p : Provisioner) (operation : String) : Except CommandFault CommandOutput → Except Fault CommandOutput
  | .error (.launch _ message) => .error (.provisioner (.launch message))
  | .error (.timedOut limit) => .error (.provisioner (.timeout p.plan operation limit.seconds))
  | .ok output =>
    let stderr := Text.trim output.stderr
    if output.success then .ok output
    else if p.signature.tells stderr then .error (.provisioner (.stateLocked p.plan stderr))
    else .error (.provisioner (.commandFailed p.plan operation stderr))

variable {σ : Type} [Host σ]

/-- Runs the program for an operation. -/
def invoke (p : Provisioner) (operation : String) (args : List String) (timeout : Span) : Act σ CommandOutput := do
  let env ← Act.asks fun w => p.environment operation w.localDate w.env
  let reply ← Act.run ⟨p.binary, args, some p.path, env, timeout⟩
  Act.ofExcept (p.outcome operation reply)

/-- The argument that bounds how much is done at a time. -/
def parallelismArg (p : Provisioner) : List String :=
  (p.parallelism.map fun n => "-parallelism=" ++ toString n).toList

/-- Tells the program where its state is and whether that is new to it. -/
def writeBackend (p : Provisioner) : Act σ Bool :=
  match p.backend with
  | some b => writeIfChanged (p.path.join StateBackend.fileName) b.render
  | none => return false

/-- Makes the directory of the plan ready. -/
def init (p : Provisioner) : Act σ Unit := do
  let reconfigure ← p.writeBackend
  let args := ["init", "-upgrade", "-no-color"] ++ if reconfigure then ["-reconfigure"] else []
  let _ ← p.invoke "init" args p.commandTimeout

/-- Writes the variables of the plan. -/
def writeVariables (p : Provisioner) (vars : Variables) : Act σ Unit :=
  orIo (Disk.write (p.path.join variablesFile) (Json.ofTable vars).compact)

/-- Brings the plan about with variables. -/
def apply (p : Provisioner) (vars : Variables) (extra : List String) : Act σ Unit := do
  p.writeVariables vars
  let args := ["apply"] ++ extra ++ ["-auto-approve", "-no-color"] ++ p.parallelismArg
  let _ ← p.invoke "apply" args p.applyTimeout

/-- Removes all that the plan has brought about. -/
def destroy (p : Provisioner) : Act σ Unit := do
  let args := ["destroy", "-auto-approve", "-no-color", "-input=false"] ++ p.parallelismArg
  let _ ← p.invoke "destroy" args p.applyTimeout

def invalidOutput (message : String) : Fault := .provisioner (.invalidOutput message)

/-- The value of one output, null if it has none. -/
def outputValue (entry : Json) : Json := (entry.get? "value").getD .null

/-- The outputs of the plan. -/
def outputs (p : Provisioner) : Act σ (Table Json) := do
  let output ← p.invoke "output" ["output", "-json", "-no-color"] p.commandTimeout
  match (Decoder.table Decoder.json).ofText output.stdout with
  | .ok entries => return entries.map outputValue
  | .error e => Act.fail (invalidOutput ("output of plan " ++ p.plan ++ ": " ++ e.message))

/-- The state of the plan; where nothing is printed it is empty. -/
def pullState (p : Provisioner) : Act σ Json := do
  let output ← p.invoke "state" ["state", "pull"] p.commandTimeout
  if Text.isBlank output.stdout then return .obj []
  else match Json.ofText output.stdout with
    | .ok state => return state
    | .error e => Act.fail (invalidOutput ("state of plan " ++ p.plan ++ ": " ++ e.message))

/-- Whether a state lists resources. -/
def listsResources (state : Json) : Bool :=
  match state.get? "resources" with
  | some (.arr items) => !items.isEmpty
  | _ => false

/-- Whether the plan has brought anything about. -/
def hasResources (p : Provisioner) : Act σ Bool := do
  return listsResources (← p.pullState)

/-- The lines of a text that are not blank, without blanks around them. -/
def shownLines (text : String) : List String :=
  ((Text.lines text).map Text.trim).filter (· ≠ "")

/-- The resources in the state of the plan. -/
def stateList (p : Provisioner) : Act σ (List String) := do
  let output ← p.invoke "state-list" ["state", "list"] p.commandTimeout
  return shownLines output.stdout

/-- Removes one resource from the state of the plan. -/
def stateRemove (p : Provisioner) (address : String) : Act σ Unit := do
  let _ ← p.invoke "state-rm" ["state", "rm", address] p.commandTimeout

/-- Brings the state of the plan up to date. -/
def sync (p : Provisioner) : Act σ Unit := do
  let _ ← p.invoke "sync" ["apply", "-refresh-only", "-auto-approve"] p.applyTimeout

end Provisioner

end Rollout
