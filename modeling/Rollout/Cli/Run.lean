import Rollout.Cli.Operation
import Rollout.Config.Review
import Rollout.Deploy.Setup
import Rollout.Report.Format
import Rollout.Variables.Overrides

/-!
# Rollout.Cli.Run — carrying out what the tool is told to do

Results are printed, and progress, questions and faults are shown beside them.

* `Invocation.carryOut`: an operation; it tells whether all went well.
* `run`: a whole command line, with the exit code.
* `printed`, `shown`: the two texts that a run leaves behind.
-/

namespace Rollout.Cli

/-- The version of the tool. -/
def version : String := "0.1.0"

/-- Whether there is colour; in a pipe there is none unless the environment demands it. -/
def isColored (env : Table String) : Bool := (env.get? "CLICOLOR_FORCE").any (· ≠ "0")

/-- The layout of results in a style. -/
def Style.layout (env : Table String) : Style → Report.Layout
  | text => .text (isColored env)
  | json => .json

/-- How a registry is named in the summary of a configuration. -/
def registryName : Config.Backend → String
  | .directory => "Local"
  | .http => "Http"
  | .memory => "Memory"

/-! ## Texts -/

/-- What was printed as results. -/
def printed (log : List Event) : String :=
  String.join (log.reverse.map fun
    | .printed text => text
    | _ => "")

/-- What was shown beside the results. -/
def shown (color : Bool) (log : List Event) : String :=
  String.join (log.reverse.map fun
    | .shown text => text
    | .status line => Report.styled color Report.cyan "»" ++ " " ++ line ++ "\n"
    | _ => "")

variable {σ : Type}

/-- Prints a result; blanks at its end give way to one line end. -/
def emit (text : String) : Act σ Unit := Act.note (.printed (Text.trimEnd text ++ "\n"))

/-- Prints a result in a style. -/
def present (style : Style) (result : Report.Layout → String) : Act σ Unit := do
  emit (result (style.layout (← Act.asks World.env)))

/-- Shows a line. -/
def tell (line : String) : Act σ Unit := Act.note (.shown (line ++ "\n"))

/-- The next line that the operator has typed. -/
def readLine : Act σ String := fun w =>
  let cs := w.input.toList
  let line := cs.takeWhile (· ≠ '\n')
  (.ok (String.ofList line), { w with input := String.ofList (cs.drop (line.length + 1)) })

/-- Asks a question and tells whether the answer is the one expected. -/
def confirm (question expected : String) : Act σ Bool := do
  Act.note (.shown question)
  return Text.trim (← readLine) = expected

/-! ## Operations -/

variable [Host σ]

/-- The configuration, and the base of its paths. -/
def loadConfig (path : Option Path) : Act σ (Option Path × Config) := do
  let path ← match path with
    | some path => pure path
    | none => Config.find "."
  let base := some (path.parent?.getD ".")
  Config.loadEnvFile base
  return (base, ← Config.load base path)

/-- The installation, if its configuration is accepted. -/
def loadDeployment (path : Option Path) : Act σ Deployment := do
  let (base, c) ← loadConfig path
  let _ ← Act.ofExcept c.accept
  Deployment.ofConfig base c

/-- Runs the steps of a plan and prints the report. -/
def runPlan (style : Style) (name : String) (steps : List (Step σ)) : Risky σ Bool := do
  let report ← Risky.ofRun (Plan.run name steps)
  Risky.lift (present style (Report.plan · report))
  return report.success

/-- Reviews the configuration and the manifest. -/
def validate (style : Style) (path : Option Path) (warnings : Bool) : Act σ Bool := do
  let (base, c) ← loadConfig path
  let review := c.review
  let review ← match ← (Manifest.load base c).attempt with
    | .ok _ => pure review
    | .error e => pure { review with warnings := review.warnings ++ ["manifest: " ++ e.message] }
  present style (Report.review · review warnings)
  if review.isValid then
    tell "\nConfiguration summary:"
    tell ("  Registry: " ++ registryName c.registry.backend)
    tell ("  Model: " ++ c.orchestrator.model)
    tell ("  Plans: " ++ toString c.plans.length)
  return review.isValid

/-- Destroys a plan once the operator has said so. -/
def destroy (style : Style) (path : Option Path) (plan : String) (yes : Bool) : Risky σ Bool := do
  let (steps, agreed) ← Risky.lift do
    let d ← loadDeployment path
    let steps ← Act.ofExcept (d.destroyPlan plan)
    let question := "This destroys every resource of plan " ++ plan ++ ". Type '" ++ plan ++ "' to confirm: "
    return (steps, ← if yes then pure true else confirm question plan)
  if agreed then runPlan style ("destroy " ++ plan) steps
  else
    Risky.lift (tell "Destruction cancelled.")
    return true

/-- Prints that something is done. -/
def emitDone (style : Style) (message : String) : Act σ Unit :=
  present style (Report.outcome · (Outcome.completed.withMessage message))

/-- Releases the lock on a plan if it is old enough and the operator has said so. -/
def unlock (style : Style) (d : Deployment) (plan : String) (olderThan : Int) (yes : Bool) :
    Act σ Unit := do
  let _ ← Act.ofExcept (d.plan plan)
  match d.registry with
  | .server s =>
    let lock ← s.lock plan
    let now ← Act.asks World.date
    let age := lock.map fun l => (l.age now : Int)
    present style (Report.lock · plan lock age)
    match lock with
    | none => return ()
    | some lock =>
      if age.getD 0 < olderThan then return ()
      else do
        let question := "Release lock " ++ lock.id ++ " on plan " ++ plan ++ "? Type 'unlock' to confirm: "
        let agreed ← if yes then pure true else confirm question "unlock"
        if agreed then
          s.unlock plan lock
          emitDone style ("lock on " ++ plan ++ " released")
        else tell "Unlock cancelled."
  | r => Act.fail (.registry (.unsupported "state unlock" r.kind))

/-- Changes the state of a plan, again and again while the state is locked. -/
def mend (style : Style) (d : Deployment) (plan message : String) (change : Provisioner → Act σ Unit) : Risky σ Unit := do
  let p ← Risky.lift (Act.ofExcept (d.provisioner plan))
  Retry.run d.config.retry (change p)
  Risky.lift (emitDone style message)

/-- Looks at the state of a plan, or mends it. -/
def manageState (style : Style) (d : Deployment) : Operation → Risky σ Unit
  | .stateList plan => Risky.lift do
    let p ← Act.ofExcept (d.provisioner plan)
    let items ← p.stateList
    present style (Report.resources · plan items)
  | .stateRemove plan address => mend style d plan ("removed " ++ address) (·.stateRemove address)
  | .stateSync plan => mend style d plan ("state of " ++ plan ++ " refreshed") (·.sync)
  | .statePull plan => Risky.lift do
    let p ← Act.ofExcept (d.provisioner plan)
    emit (← p.pullState).pretty
  | .stateUnlock plan olderThan yes => Risky.lift (unlock style d plan olderThan yes)
  | _ => pure ()

/-- Carries out an operation and tells whether all went well. -/
def Invocation.carryOut (i : Invocation) : Risky σ Bool :=
  let style := i.output
  match i.operation with
  | .validate warnings => Risky.lift (validate style i.config warnings)
  | .init plan => do
    let p ← Risky.lift do Act.ofExcept ((← loadDeployment i.config).provisioner plan)
    runPlan style ("init " ++ plan) [p.initStep]
  | .deploy plan application overrides components refresh => do
    let steps ← Risky.lift do
      let d ← loadDeployment i.config
      let overrides ← Act.ofExcept (Variables.parseOverrides overrides)
      let components := if components.isEmpty then none else some components
      Act.ofExcept (d.deployPlan plan ⟨application, overrides, components, refresh⟩)
    runPlan style ("deploy " ++ plan) steps
  | .destroy plan yes => destroy style i.config plan yes
  | .output plan => Risky.lift do
    let d ← loadDeployment i.config
    let p ← Act.ofExcept (d.provisioner plan)
    let outputs ← p.outputs
    present style (Report.values · ("Outputs of " ++ plan) outputs)
    return true
  | .vars plan => Risky.lift do
    let d ← loadDeployment i.config
    let p ← Act.ofExcept (d.plan plan)
    let vars ← Variables.persisted d.registry p.key
    present style (Report.variableTable · p.key vars)
    return true
  | .upgradeDatabase reset => do
    let steps ← Risky.lift do Act.ofExcept ((← loadDeployment i.config).upgradePlan reset)
    runPlan style "upgrade database" steps
  | operation => do
    manageState style (← Risky.lift (loadDeployment i.config)) operation
    return true

/-! ## Whole runs -/

/-- What is said of a command line that is not carried out: the result, what is shown, and the exit code. -/
def Refusal.reply : Refusal → String × String × Nat
  | help => ("Usage: converge [OPTIONS] <COMMAND>\n", "", 0)
  | version command => (String.intercalate "-" command ++ " " ++ Cli.version ++ "\n", "", 0)
  | _ => ("", "Usage: converge [OPTIONS] <COMMAND>\n", 2)

/-- What is shown of a panic; the place in the program is left out. -/
def panicNotice (p : Panic) : String := "thread 'main' panicked\n" ++ p.message ++ "\n"

/-- Carries out a command line and gives the exit code. -/
def run (args : List String) (w : World σ) : Nat × World σ :=
  match Invocation.ofArgs w.env args with
  | .error r =>
    let (result, aside, code) := r.reply
    (code, (w.note (.printed result)).note (.shown aside))
  | .ok i => match i.carryOut w with
    | (.ok (.ok success), w) => (if success then 0 else 1, w)
    | (.ok (.error p), w) => (101, w.note (.shown (panicNotice p)))
    | (.error e, w) => (1, w.note (.shown ("Error: " ++ e.message ++ "\n")))

end Rollout.Cli
