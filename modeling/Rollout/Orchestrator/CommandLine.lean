import Rollout.Config.Engine
import Rollout.Json.Decode
import Rollout.Text.Blank
import Rollout.World.Basic

/-!
# Rollout.Orchestrator.CommandLine — an orchestrator reached through its tool

The tool of an orchestrator takes calls as commands and prints documents.

* `CommandLine.application?`, `CommandLine.leader`, …: the calls as commands, and what is read off the documents.
* `Orchestrator.ask`: a call to an orchestrator, whichever way it is reached; each call is noted.
-/

namespace Rollout

/-- The tool of an orchestrator and the model it works on. -/
structure CommandLine where
  binary : Path
  model : String
deriving DecidableEq, Repr, Inhabited

namespace CommandLine

/-- How long the tool may run. -/
def timeout : Span := Span.ofSeconds 300

/-! ## Documents -/

/-- A status and its message. -/
structure Status where
  current : String
  message : String
deriving DecidableEq, Repr, Inhabited

def Status.empty : Status := ⟨"", ""⟩

def Status.decoder : Decoder Status :=
  Fields.closed "StatusField"
    (Status.mk <$> Fields.withDefault "current" Decoder.string ""
      <*> Fields.withDefault "message" Decoder.string "")

def unitDecoder : Decoder AppUnit :=
  Fields.closed "UnitDoc"
    ((fun workload agent leader => AppUnit.mk workload.current workload.message agent.current leader)
      <$> Fields.withDefault "workload-status" Status.decoder .empty
      <*> Fields.withDefault "juju-status" Status.decoder .empty
      <*> Fields.withDefault "leader" Decoder.bool false)

/-- An application without its name; without a number, its scale is the number of units listed. -/
def applicationDecoder : Decoder (String → Application) :=
  Fields.closed "ApplicationDoc"
    ((fun status revision channel scale units name =>
        Application.mk name status.current revision channel (scale.getD (min units.size (UInt32.size - 1))) units)
      <$> Fields.withDefault "application-status" Status.decoder .empty
      <*> Fields.nullable "charm-rev" Decoder.u64
      <*> Fields.nullable "charm-channel" Decoder.string
      <*> Fields.nullable "scale" Decoder.u32
      <*> Fields.withDefault "units" (Decoder.table unitDecoder) Table.empty)

def statusDecoder : Decoder (Table (String → Application)) :=
  Fields.closed "StatusDoc"
    (Fields.withDefault "applications" (Decoder.table applicationDecoder) Table.empty)

/-- What became of an action on one unit. -/
structure ActionResult where
  status : String
  message : Option String
  results : Table Json

def actionDecoder : Decoder ActionResult :=
  Fields.closed "ActionDoc"
    (ActionResult.mk <$> Fields.withDefault "status" Decoder.string ""
      <*> Fields.optional "message" Decoder.string
      <*> Fields.withDefault "results" (Decoder.table Decoder.json) Table.empty)

/-- One relation of a unit: its endpoint and the data of the application. -/
def relationDecoder : Decoder (String × Table Json) :=
  Fields.closed "RelationDoc"
    (Prod.mk <$> Fields.withDefault "endpoint" Decoder.string ""
      <*> Fields.withDefault "application-data" (Decoder.table Decoder.json) Table.empty)

def relationsDecoder : Decoder (List (String × Table Json)) :=
  Fields.closed "ShowUnitDoc"
    (Fields.withDefault "relation-info" (Decoder.list relationDecoder) [])

/-- Revisions by track and risk. -/
def channelsDecoder : Decoder (Table (Table (List Nat))) :=
  let release : Decoder Nat := Fields.closed "ChannelRelease" (Fields.required "revision" Decoder.u64)
  Fields.closed "InfoDoc"
    (Fields.withDefault "channels" (Decoder.table (Decoder.table (Decoder.list release))) Table.empty)

/-- What a printed document says. -/
def read (d : Decoder α) (stdout : String) : Except Fault α :=
  match d.ofText (Text.trim stdout) with
  | .ok a => .ok a
  | .error e => .error (.orchestrator (.invalidResponse e.message))

/-! ## Commands -/

variable {σ : Type} [Host σ]

/-- Runs the tool. -/
def execute (t : CommandLine) (args : List String) : Act σ CommandOutput := do
  let command : Command := ⟨t.binary, args, none, Table.empty, timeout⟩
  match ← Act.run command with
  | .ok output => return output
  | .error (.launch _ message) => Act.fail (.orchestrator (.launch message))
  | .error e => Act.fail (.orchestrator (.commandFailed command.line e.message))

/-- Runs the tool and takes what it printed. -/
def printed (t : CommandLine) (args : List String) : Act σ String := do
  let output ← t.execute args
  if output.success then return output.stdout
  else Act.fail (.orchestrator (.commandFailed (args.headD "") (Text.trim output.stderr)))

/-- The first words of a command on a model. -/
def onModel (t : CommandLine) (command : String) (args : List String) : List String :=
  [command, "--model", t.model] ++ args

/-- An application, if it is deployed. -/
def application? (t : CommandLine) (name : String) : Act σ (Option Application) := do
  let stdout ← t.printed (t.onModel "status" ["--format", "json", name])
  let applications ← Act.ofExcept (read statusDecoder stdout)
  return (applications.get? name).map fun named => named name

/-- The unit that leads an application. -/
def leader (t : CommandLine) (name : String) : Act σ String := do
  match ← t.application? name with
  | none => Act.fail (.orchestrator (.applicationNotFound name t.model))
  | some app => match app.leader? with
    | some unit => return unit
    | none => Act.fail (.orchestrator (.leaderNotFound name t.model))

/-- The code that an action gives back, if it is one that counts. -/
def returnCode (results : Table Json) : Int :=
  match results.get? "return-code" with
  | some (.num (.int i)) => if Number.isInt64 i then i else 0
  | _ => 0

/-- Whether an action was completed; a code above one tells of a failure all the same. -/
def ActionResult.check (r : ActionResult) : Except String (Table Json) :=
  if r.status ≠ "completed" then .error (r.message.getD ("action status " ++ r.status))
  else if 1 < returnCode r.results then .error ("return-code " ++ toString (returnCode r.results))
  else .ok r.results

/-- Reads off what an action printed.  An action that failed still prints its document, so the exit code only
counts when there is none. -/
def actionResult (unit name : String) (output : CommandOutput) : Except Fault (Table Json) :=
  let failed (message : String) : Fault := .orchestrator (.actionFailed unit name message)
  match read (Decoder.table actionDecoder) output.stdout with
  | .error e => .error (if output.success then e else failed (Text.trim output.stderr))
  | .ok docs => match docs.get? unit with
    | none => .error (.orchestrator (.invalidResponse ("no result for " ++ unit ++ " in action output")))
    | some doc => doc.check.mapError failed

/-- Runs an action on a unit. -/
def action (t : CommandLine) (unit name : String) (params : Table String) : Act σ (Table Json) := do
  let settings := params.entries.map fun (k, v) => k ++ "=" ++ v
  let output ← t.execute (t.onModel "run" (["--format", "json", unit, name] ++ settings))
  Act.ofExcept (actionResult unit name output)

/-- Sets the number of units. -/
def scale (t : CommandLine) (application : String) (units : Nat) : Act σ Unit := do
  let _ ← t.printed (t.onModel "scale-application" [application, toString units])

/-- Takes an application to the latest revision in its channel. -/
def refresh (t : CommandLine) (application : String) : Act σ Unit := do
  let _ ← t.printed (t.onModel "refresh" [application])

/-- Track and risk of a channel; without a slash the risk is the stable one. -/
def trackAndRisk (channel : String) : String × String :=
  let track := channel.toList.takeWhile (· ≠ '/')
  match channel.toList.dropWhile (· ≠ '/') with
  | [] => (channel, "stable")
  | _ :: risk => (String.ofList track, String.ofList risk)

/-- The greatest of several numbers. -/
def greatest : List Nat → Option Nat
  | [] => none
  | n :: rest => some (rest.foldl max n)

/-- The latest revision published in a channel. -/
def latestRevision (t : CommandLine) (charm channel : String) : Act σ (Option Nat) := do
  let stdout ← t.printed ["info", "--format", "json", "--channel", channel, charm]
  let channels ← Act.ofExcept (read channelsDecoder stdout)
  let (track, risk) := trackAndRisk channel
  return ((channels.get? track).bind fun risks => risks.get? risk).bind greatest

/-- The upgrades that the relations of a unit tell of.  A text that is no list counts as none. -/
def stackOf (relations : List (String × Table Json)) : List Json :=
  match (relations.find? (·.1 = "upgrade")).bind fun r => r.2.get? "upgrade-stack" with
  | some (.str text) => match (Decoder.list Decoder.json).ofText text with
    | .ok stack => stack
    | .error _ => []
  | _ => []

/-- The upgrades under way on a unit. -/
def upgradeStack (t : CommandLine) (unit : String) : Act σ (List Json) := do
  let stdout ← t.printed (t.onModel "show-unit" ["--format", "json", unit])
  let docs ← Act.ofExcept (read (Decoder.table relationsDecoder) stdout)
  return ((docs.get? unit).map stackOf).getD []

/-- The answer to a call. -/
def answer (t : CommandLine) : (c : Call) → Act σ c.Answer
  | .application name => t.application? name
  | .leader application => t.leader application
  | .action unit name params => t.action unit name params
  | .scale application units => t.scale application units
  | .refresh application => t.refresh application
  | .latestRevision charm channel => t.latestRevision charm channel
  | .upgradeStack unit => t.upgradeStack unit

end CommandLine

/-- An orchestrator, asked directly or through its tool. -/
inductive Orchestrator
  | direct
  | tool (t : CommandLine)
deriving DecidableEq, Repr, Inhabited

/-- The orchestrator that is configured. -/
def Orchestrator.ofConfig (c : Config.Orchestrator) : Orchestrator := .tool ⟨c.binary, c.model⟩

/-- Asks an orchestrator. -/
def Orchestrator.ask {σ : Type} [Host σ] (o : Orchestrator) (c : Call) : Act σ c.Answer := do
  Act.note (.call c)
  match o with
  | .direct => Act.call c
  | .tool t => t.answer c

end Rollout
