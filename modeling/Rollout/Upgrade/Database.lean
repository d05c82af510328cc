import Rollout.Config.Manifest
import Rollout.Orchestrator.Wait
import Rollout.Plan.Run
import Rollout.Upgrade.Scale
import Rollout.Upgrade.Tracker

/-!
# Rollout.Upgrade.Database — the upgrade of a database

A database is upgraded in place: it grows to an odd number of units, is checked, one unit is refreshed first, the
others follow, and it shrinks to the size it had before.  Each phase is noted when it is reached, and a phase that was
reached before is passed over, so an upgrade that was interrupted goes on where it stopped.

* `DatabasePhase`: the phases in their order.
* `DatabaseUpgrade.eligible`: whether there is anything to upgrade.
* `DatabaseUpgrade.drive`: the phases one after another.
* `DatabaseUpgrade.step`: the upgrade as a step of a plan.
-/

namespace Rollout

/-- The phases of the upgrade of a database. -/
inductive DatabasePhase
  | start
  | baselineRecorded
  | scaledUp
  | precheckDone
  | primaryUnitUpgraded
  | upgradeResumed
  | unitsSettled
  | scaledBack
deriving DecidableEq, Repr, Inhabited

namespace DatabasePhase

/-- All phases in their order. -/
def sequence : List DatabasePhase :=
  [start, baselineRecorded, scaledUp, precheckDone, primaryUnitUpgraded, upgradeResumed, unitsSettled,
    scaledBack]

def name : DatabasePhase → String
  | start => "INIT"
  | baselineRecorded => "ORIGINAL_STATE_RECORDED"
  | scaledUp => "SCALED_UP"
  | precheckDone => "PRECHECK_DONE"
  | primaryUnitUpgraded => "PRIMARY_UNIT_UPGRADED"
  | upgradeResumed => "UPGRADE_RESUMED"
  | unitsSettled => "UNITS_SETTLED"
  | scaledBack => "SCALED_BACK"

/-- The places of the phases. -/
def ranks? : Option (PhaseRanks DatabasePhase) := PhaseRanks.build name sequence

end DatabasePhase

/-- How a database is upgraded. -/
structure DatabaseUpgrade where
  orchestrator : Orchestrator
  registry : Registry
  manifest : Manifest
  settings : Config.Upgrade
  /-- The delay between two looks at the application. -/
  delay : Span
  ranks : PhaseRanks DatabasePhase

namespace DatabaseUpgrade

/-- What to do after a failure that may pass. -/
def retryHint : String :=
  "Check the application status and re-run `converge upgrade database` to retry the upgrade."

/-- What to do when the progress noted is of no use. -/
def resetHint : String := "Run `converge upgrade database --reset-state` to start a fresh upgrade."

/-- The statuses that an application has to reach. -/
def accepted : List String := ["active"]

/-- A failure in a phase. -/
def failure (phase : DatabasePhase) (reason remediation : String) : Fault :=
  .upgrade phase.name reason remediation

/-- The application that is upgraded. -/
def app (u : DatabaseUpgrade) : String := u.settings.application

def tracker (u : DatabaseUpgrade) : Tracker DatabasePhase := .fresh u.registry u.settings.stateKey u.ranks

def wait (u : DatabaseUpgrade) (seconds : Nat) : Wait := ⟨u.delay, Span.ofSeconds seconds⟩

variable {σ : Type} [Host σ]

/-! ## Whether there is anything to upgrade -/

def skip (message : String) : Outcome := Outcome.skipped.withMessage message

/-- The leader of the application, if there is one. -/
def leader? (u : DatabaseUpgrade) : Act σ (Option String) := do
  match ← (u.orchestrator.ask (.leader u.app)).attempt with
  | .ok leader => return some leader
  | .error (.orchestrator (.leaderNotFound ..)) => return none
  | .error e => Act.fail e

/-- The track that is deployed; empty if the channel is unknown. -/
def deployedTrack (app : Application) : String :=
  (app.channel.map fun c => String.ofList (c.toList.takeWhile (· ≠ '/'))).getD ""

/-- The decision when a leader is known. -/
def eligibleWith (u : DatabaseUpgrade) (app : Application) (latest : Nat) (leader : String) : Act σ Outcome := do
  let component := u.settings.component
  let stack ← u.orchestrator.ask (.upgradeStack leader)
  if app.revision = some latest ∧ stack.isEmpty then
    return skip (component ++ " already at latest revision " ++ toString latest)
  else if stack.isEmpty then return .completed
  else if ← u.tracker.exists? then return .completed
  else return skip ("Detected " ++ component ++ " upgrade in progress with no persisted state. It was likely " ++
    "started outside this tool; complete or roll back the in-progress upgrade manually")

/-- The decision when the track is the desired one. -/
def eligibleOn (u : DatabaseUpgrade) (app : Application) (desired : Component) : Act σ Outcome := do
  let component := u.settings.component
  match desired.channel.or app.channel with
  | none => return skip (component ++ " has no channel to refresh from")
  | some channel => match ← u.orchestrator.ask (.latestRevision component channel) with
    | none => return skip ("no " ++ component ++ " revision published in " ++ channel)
    | some latest => match ← u.leader? with
      | none => return skip ("Unable to determine leader unit for " ++ u.app)
      | some leader => u.eligibleWith app latest leader

/-- Completed if there is something to upgrade, otherwise skipped with the reason. -/
def eligible (u : DatabaseUpgrade) : Act σ Outcome := do
  let component := u.settings.component
  match ← u.orchestrator.ask (.application u.app) with
  | none => return skip (u.app ++ " application has not been deployed yet")
  | some app => match u.manifest.component? component with
    | none => return skip (component ++ " not present in manifest, skipping database upgrade")
    | some desired =>
      let track := desired.track?.getD ""
      if desired.revision.isSome then
        return skip (component ++ " revision pinned in manifest, handled by the provisioner")
      else if deployedTrack app ≠ track then
        return skip (component ++ " channel track differs between manifest and deployment: " ++ track ++ " vs " ++
          deployedTrack app)
      else u.eligibleOn app desired

/-! ## The phases -/

/-- How far the upgrade is, and what was found at its start. -/
structure Stage where
  tracker : Tracker DatabasePhase
  baseline : Baseline

namespace Stage

/-- Notes that a phase is reached. -/
def advance (s : Stage) (phase : DatabasePhase) : Act σ Stage := do
  return { s with tracker := ← s.tracker.advance phase s.baseline }

/-- Goes through a phase unless it was reached before. -/
def through (s : Stage) (phase : DatabasePhase) (x : Act σ Stage) : Act σ Stage :=
  if s.tracker.reached phase then return s else x

end Stage

/-- Notes the revision and the number of units found. -/
def recordBaseline (u : DatabaseUpgrade) (s : Stage) : Act σ Stage :=
  s.through .baselineRecorded do
    match ← u.orchestrator.ask (.application u.app) with
    | none => Act.fail (failure .baselineRecorded (u.app ++ " is not deployed") retryHint)
    | some app =>
      let found : Stage := { s with baseline := ⟨app.revision, some app.scale⟩ }
      found.advance .baselineRecorded

/-- Sets the number of units and waits until they are there. -/
def scaleAndWait (u : DatabaseUpgrade) (units : Nat) : Act σ Unit := do
  u.orchestrator.ask (.scale u.app units)
  let _ ← (u.wait u.settings.scaleTimeout).settled u.orchestrator u.app accepted

/-- Grows to the number of units that the upgrade needs. -/
def scaleUp (u : DatabaseUpgrade) (s : Stage) : Act σ Stage :=
  s.through .scaledUp do
    match s.baseline.scale with
    | none => Act.fail (failure .scaledUp ("original " ++ u.app ++ " scale was not recorded before scale-up") resetHint)
    | some before =>
      let target := toString (Upgrade.targetScale before)
      Act.publish ("Preparing " ++ u.app ++ " for upgrade, scaling to " ++ target ++ " units")
      match ← (u.scaleAndWait (Upgrade.targetScale before)).attempt with
      | .ok _ => s.advance .scaledUp
      | .error e =>
        let reason :=
          if e.isTimeout then
            "timed out waiting for " ++ u.app ++ " to become active after scaling to " ++ target ++ " units: "
          else "failed to scale " ++ u.app ++ " to " ++ target ++ " units: "
        Act.fail (failure .scaledUp (reason ++ e.message) retryHint)

/-- Runs an action on the leader. -/
def leaderAction (u : DatabaseUpgrade) (phase : DatabasePhase) (action : String) : Act σ Unit := do
  match ← (u.orchestrator.ask (.leader u.app)).attempt with
  | .error e =>
    let reason := "unable to determine leader unit of " ++ u.app ++ " for " ++ action ++ ": " ++ e.message
    Act.fail (failure phase reason retryHint)
  | .ok leader => match ← (u.orchestrator.ask (.action leader action Table.empty)).attempt with
    | .ok _ => return ()
    | .error e => Act.fail (failure phase (action ++ " failed on " ++ leader ++ ": " ++ e.message) retryHint)

/-- Lets the leader check whether the upgrade can go on. -/
def precheck (u : DatabaseUpgrade) (s : Stage) : Act σ Stage :=
  s.through .precheckDone do
    Act.publish ("Running pre-upgrade check on " ++ u.app ++ " leader")
    u.leaderAction .precheckDone "pre-upgrade-check"
    s.advance .precheckDone

/-- Refreshes the application and waits until its highest unit is upgraded. -/
def upgradePrimaryUnit (u : DatabaseUpgrade) (s : Stage) : Act σ Stage :=
  s.through .primaryUnitUpgraded do
    match (← u.orchestrator.ask (.application u.app)).bind Application.highest? with
    | none => Act.fail (failure .primaryUnitUpgraded (u.app ++ " has no units to refresh") retryHint)
    | some unit =>
      Act.publish ("Refreshing " ++ u.app ++ ", waiting for " ++ unit ++ " to complete upgrade")
      match ← (u.orchestrator.ask (.refresh u.app)).attempt with
      | .error e =>
        Act.fail (failure .primaryUnitUpgraded ("refresh of " ++ u.app ++ " failed: " ++ e.message) retryHint)
      | .ok _ =>
        match ← ((u.wait u.settings.primaryUnitTimeout).upgraded u.orchestrator u.app unit).attempt with
        | .ok _ => s.advance .primaryUnitUpgraded
        | .error e =>
          let reason :=
            if e.isTimeout then "timed out waiting for " ++ unit ++ " to complete upgrade: "
            else "waiting for " ++ unit ++ " failed: "
          Act.fail (failure .primaryUnitUpgraded (reason ++ e.message) retryHint)

/-- Lets the leader go on with the other units. -/
def resumeUpgrade (u : DatabaseUpgrade) (s : Stage) : Act σ Stage :=
  s.through .upgradeResumed do
    Act.publish ("Running resume-upgrade on " ++ u.app ++ " leader")
    u.leaderAction .upgradeResumed "resume-upgrade"
    s.advance .upgradeResumed

/-- What to do when the units do not settle. -/
def rollbackHint (u : DatabaseUpgrade) (baseline : Baseline) : String :=
  let revision := (baseline.revision.map toString).getD "<previous-revision>"
  String.intercalate "\n"
    ["Consider rolling back to revision " ++ revision ++ ":",
      "  1. Run `juju run " ++ u.app ++ "/leader pre-upgrade-check` to configure the rollback",
      "  2. Run `juju refresh --revision " ++ revision ++ " " ++ u.app ++ "` to start the rollback",
      "  3. Run `juju run " ++ u.app ++ "/leader resume-upgrade` to resume the rollback"]

/-- Waits until all units are upgraded and active. -/
def waitUnitsSettled (u : DatabaseUpgrade) (s : Stage) : Act σ Stage :=
  s.through .unitsSettled do
    Act.publish ("Waiting for " ++ u.app ++ " units to complete upgrade and settle")
    match ← ((u.wait u.settings.settleTimeout).settled u.orchestrator u.app accepted).attempt with
    | .ok _ => s.advance .unitsSettled
    | .error e =>
      let reason := "timed out waiting for " ++ u.app ++ " units to settle: " ++ e.message
      Act.fail (failure .unitsSettled reason (u.rollbackHint s.baseline))

/-- Shrinks to the number of units there were before, if all goes well. -/
def scaleBack (u : DatabaseUpgrade) (s : Stage) : Act σ Stage :=
  s.through .scaledBack do
    match s.baseline.scale with
    | none =>
      Act.publish (u.app ++ " scale-back skipped: original scale is unknown")
      return s
    | some before =>
      let expected := Upgrade.targetScale before
      let current := (← u.orchestrator.ask (.application u.app)).map Application.scale
      if current ≠ some expected then
        Act.publish (u.app ++ " scale-back skipped: current scale is " ++
          (current.map toString).getD "unknown" ++ ", expected " ++ toString expected)
        return s
      else
        Act.publish (u.app ++ " units upgraded, scaling back to " ++ toString before ++ " units")
        match ← (u.scaleAndWait before).attempt with
        | .ok _ => s.advance .scaledBack
        | .error _ => return s

/-- The phases one after another. -/
def drive (u : DatabaseUpgrade) (s : Stage) : Act σ Stage := do
  let s ← u.recordBaseline s
  let s ← u.scaleUp s
  let s ← u.precheck s
  let s ← u.upgradePrimaryUnit s
  let s ← u.resumeUpgrade s
  let s ← u.waitUnitsSettled s
  u.scaleBack s

/-- Takes up the progress in the registry, goes through the phases that are left, and forgets the progress. -/
def upgrade (u : DatabaseUpgrade) : Act σ Outcome := do
  let (tracker, loaded) ← u.tracker.load
  let baseline ← Act.ofExcept loaded
  let s ← u.drive ⟨tracker, baseline⟩
  let _ ← s.tracker.clear
  return Outcome.completed.withMessage (u.app ++ " upgrade completed successfully")

/-- The upgrade as a step of a plan. -/
def step (u : DatabaseUpgrade) : Step σ where
  name := "Database upgrade"
  description := "Refreshing " ++ u.app ++ " application to latest in-channel revision"
  check := Step.outcomeOf u.eligible
  body := Step.endOf (Risky.lift u.upgrade)

end DatabaseUpgrade

end Rollout
