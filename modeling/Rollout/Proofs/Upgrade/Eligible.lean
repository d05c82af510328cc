import Rollout.Deploy.Deployment
import Rollout.Proofs.Obliging
import Rollout.Proofs.Plan
import Rollout.Proofs.Upgrade.Keys
import Rollout.Proofs.Upgrade.Resume

/-!
# Rollout.Proofs.Upgrade.Eligible — when an upgrade is taken up at all

Before an upgrade begins, or is taken up again, the orchestrator is asked whether there is anything to upgrade.  Where
the latest revision runs and no upgrade is in progress there is not, and that is decided without a look at the record:
an upgrade that was interrupted after its last unit was refreshed is not taken up, and its record stays.

* `DatabaseUpgrade.Finds`: what the orchestrator and the registry answer when an upgrade has to be considered.
* `DatabaseUpgrade.Finds.eligible_eq`: what is decided then.
* `Deployment.upgradePlan_record`: what a run of the plan leaves of the record.
-/

namespace Rollout

variable {σ : Type} [Host σ]

namespace DatabaseUpgrade

variable (u : DatabaseUpgrade)

/-- What is answered from `w` on when an upgrade has to be considered: the application is deployed, its component is
in the manifest without a revision and on the track that is deployed, a latest revision is published, there is a
leader, who tells what upgrades are in progress, and the registry holds a record. -/
def Finds (w : World σ) (app : Application) (latest : Nat) (stack : List Json) (record : Json) : Prop :=
  ∃ desired channel leader w₁ w₂ w₃ w₄ w₅,
    u.orchestrator.ask (.application u.app) w = (.ok (some app), w₁) ∧
    u.manifest.component? u.settings.component = some desired ∧ desired.revision = none ∧
    deployedTrack app = desired.track?.getD "" ∧ desired.channel.or app.channel = some channel ∧
    u.orchestrator.ask (.latestRevision u.settings.component channel) w₁ = (.ok (some latest), w₂) ∧
    u.orchestrator.ask (.leader u.app) w₂ = (.ok leader, w₃) ∧
    u.orchestrator.ask (.upgradeStack leader) w₃ = (.ok stack, w₄) ∧
    u.registry.get u.settings.stateKey w₄ = (.ok (some record), w₅)

variable {u} {w : World σ} {app : Application} {latest : Nat} {stack : List Json} {record : Json}

/-- Nothing is left to upgrade as far as the orchestrator knows. -/
def Settled (app : Application) (latest : Nat) (stack : List Json) : Prop := app.revision = some latest ∧ stack.isEmpty

instance (app : Application) (latest : Nat) (stack : List Json) : Decidable (Settled app latest stack) :=
  inferInstanceAs (Decidable (_ ∧ _))

/-- What is decided when the latest revision runs and no upgrade is in progress. -/
def alreadyLatest (u : DatabaseUpgrade) (latest : Nat) : Outcome :=
  skip (u.settings.component ++ " already at latest revision " ++ toString latest)

/-- The record is looked at only if there is something to upgrade. -/
theorem eligibleWith_eq {leader : String} {w' w'' : World σ}
    (hstack : u.orchestrator.ask (.upgradeStack leader) w = (.ok stack, w'))
    (hrecord : u.registry.get u.settings.stateKey w' = (.ok (some record), w'')) :
    (u.eligibleWith app latest leader w).1 =
      .ok (if Settled app latest stack then u.alreadyLatest latest else .completed) := by
  have hexists : u.tracker.exists? w' = (.ok true, w'') := by
    unfold Tracker.exists?
    have hget : u.tracker.registry.get u.tracker.key w' = (.ok (some record), w'') := hrecord
    rw [Act.bind_apply, hget]
    rfl
  unfold eligibleWith
  rw [Act.bind_apply, hstack]
  dsimp only
  by_cases hsettled : Settled app latest stack
  · have hdone : app.revision = some latest ∧ stack.isEmpty = true := hsettled
    rw [if_pos hdone, if_pos hsettled]
    rfl
  · have hdue : ¬ (app.revision = some latest ∧ stack.isEmpty = true) := hsettled
    rw [if_neg hdue, if_neg hsettled]
    by_cases hnone : stack.isEmpty = true
    · rw [if_pos hnone]
      rfl
    · rw [if_neg hnone, Act.bind_apply, hexists]
      rfl

theorem leader?_eq {leader : String} {w' : World σ} (hleader : u.orchestrator.ask (.leader u.app) w = (.ok leader, w')) :
    u.leader? w = (.ok (some leader), w') := by
  unfold leader?
  rw [Act.bind_apply]
  unfold Act.attempt
  rw [hleader]
  rfl

/-- What is answered from `w` to `w'` when an upgrade has to be considered: the application is deployed, its component is
in the manifest without a revision and on the track that is deployed, a latest revision is published, and there is a
leader. -/
def Considers (u : DatabaseUpgrade) (w : World σ) (app : Application) (latest : Nat) (leader : String) (w' : World σ) :
    Prop :=
  ∃ desired channel w₁ w₂,
    u.orchestrator.ask (.application u.app) w = (.ok (some app), w₁) ∧
    u.manifest.component? u.settings.component = some desired ∧ desired.revision = none ∧
    deployedTrack app = desired.track?.getD "" ∧ desired.channel.or app.channel = some channel ∧
    u.orchestrator.ask (.latestRevision u.settings.component channel) w₁ = (.ok (some latest), w₂) ∧
    u.orchestrator.ask (.leader u.app) w₂ = (.ok leader, w')

/-- When an upgrade has to be considered, its leader is asked. -/
theorem Considers.eligible_eq {leader : String} {w' : World σ} (h : u.Considers w app latest leader w') :
    u.eligible w = u.eligibleWith app latest leader w' := by
  obtain ⟨desired, channel, w₁, w₂, happ, hcomponent, hrevision, htrack, hchannel, hlatest, hleader⟩ := h
  have hunpinned : ¬ desired.revision.isSome = true := by simp [hrevision]
  unfold eligible
  rw [Act.bind_apply, happ]
  dsimp only
  rw [hcomponent]
  dsimp only
  rw [if_neg hunpinned, if_neg (not_not.mpr htrack)]
  unfold eligibleOn
  rw [hchannel]
  dsimp only
  rw [Act.bind_apply, hlatest]
  dsimp only
  rw [Act.bind_apply, leader?_eq hleader]

theorem Finds.considers (h : u.Finds w app latest stack record) : ∃ leader w₃ w₄ w₅,
    u.Considers w app latest leader w₃ ∧ u.orchestrator.ask (.upgradeStack leader) w₃ = (.ok stack, w₄) ∧
      u.registry.get u.settings.stateKey w₄ = (.ok (some record), w₅) := by
  obtain ⟨desired, channel, leader, w₁, w₂, w₃, w₄, w₅, happ, hcomponent, hrevision, htrack, hchannel, hlatest, hleader,
    hstack, hrecord⟩ := h
  exact ⟨leader, w₃, w₄, w₅,
    ⟨desired, channel, w₁, w₂, happ, hcomponent, hrevision, htrack, hchannel, hlatest, hleader⟩, hstack, hrecord⟩

/-- The upgrade is taken up unless the latest revision runs and no upgrade is in progress. -/
theorem Finds.eligible_eq (h : u.Finds w app latest stack record) :
    (u.eligible w).1 = .ok (if Settled app latest stack then u.alreadyLatest latest else .completed) := by
  obtain ⟨leader, w₃, w₄, w₅, hconsiders, hstack, hrecord⟩ := h.considers
  rw [hconsiders.eligible_eq]
  exact eligibleWith_eq hstack hrecord

/-! ## What the decision leaves alone -/

variable {endpoint : Option String}

/-- To decide whether there is anything to upgrade changes nothing. -/
theorem eligible_quiet : (u.eligible : Act σ Outcome).Quiet := u.eligible_within.quiet fun _ h => h.not_changes

/-- What is asked before the leader is known changes nothing. -/
theorem Considers.store_eq {leader : String} {w' : World σ} (h : u.Considers w app latest leader w') :
    w'.store = w.store := by
  obtain ⟨desired, channel, w₁, w₂, happ, -, -, -, -, hlatest, hleader⟩ := h
  exact (store_of_ask hleader).trans ((store_of_ask hlatest).trans (store_of_ask happ))

/-- The record that is found is there from the start. -/
theorem Finds.held (hreg : u.registry = .shared endpoint) (h : u.Finds w app latest stack record) :
    w.store.get? u.settings.stateKey = some record := by
  obtain ⟨leader, w₃, w₄, w₅, hconsiders, hstack, hrecord⟩ := h.considers
  have hstore : w₄.store = w.store := (store_of_ask hstack).trans hconsiders.store_eq
  obtain ⟨t, -, hget⟩ := Registry.get_ends hreg u.settings.stateKey w₄
  rw [hrecord, hstore] at hget
  rcases hget with ⟨hfound, -⟩ | ⟨f, hfault, -⟩
  · exact (Except.ok.inj hfound).symm
  · cases hfault

/-! ## The step, and the plan -/

theorem Finds.step_check (h : u.Finds w app latest stack record) :
    ∃ w', u.step.check w = (if Settled app latest stack then u.alreadyLatest latest else .completed, w') ∧
      w'.store = w.store := by
  have heligible := h.eligible_eq
  have hstore := (eligible_quiet (u := u)).store_eq w
  have hcheck : u.step.check w = Step.outcomeOf u.eligible w := rfl
  rw [hcheck]
  unfold Step.outcomeOf
  generalize u.eligible w = decided at heligible hstore ⊢
  obtain ⟨r, w'⟩ := decided
  obtain rfl : r = .ok _ := heligible
  exact ⟨w', rfl, hstore⟩

/-- A visit to the step that finds nothing to upgrade changes no document. -/
theorem step_visit_settled (hsettled : Settled app latest stack)
    (h : u.Finds (w.note (.status (u.step (σ := σ)).description)) app latest stack record) :
    ∃ w', u.step.visit w = (.ok ⟨u.alreadyLatest latest, none⟩, w') ∧ w'.store = w.store := by
  obtain ⟨w', hcheck, hstore⟩ := h.step_check
  rw [if_pos hsettled] at hcheck
  exact ⟨w', Step.visit_of_not_completed hcheck (by simp [alreadyLatest, skip, Outcome.withMessage, Outcome.skipped]),
    hstore⟩

/-- A visit to the step that takes up the upgrade leaves no record unless it fails. -/
theorem step_visit_due (hreg : u.registry = .shared endpoint) (hr : DatabasePhase.ranks? = some u.ranks)
    (candid : Host.Candid σ) (hdue : ¬ Settled app latest stack)
    (h : u.Finds (w.note (.status (u.step (σ := σ)).description)) app latest stack record) :
    ∃ o w', u.step.visit w = (.ok ⟨.completed, some o⟩, w') ∧
      (o.isFailed = false → w'.store.get? u.settings.stateKey = none) := by
  obtain ⟨w₁, hcheck, -⟩ := h.step_check
  rw [if_neg hdue] at hcheck
  obtain ⟨t, hl, b, ms, es, hrun⟩ := upgrade_ends hreg hr w₁
  rw [Step.visit_of_completed hcheck rfl, step_body]
  refine ⟨_, _, rfl, fun hpassed => ?_⟩
  cases hran : (u.upgrade w₁).1 with
  | error f =>
    rw [hran] at hpassed
    cases hpassed
  | ok o =>
    rw [hran] at hrun
    exact hrun.absent hl candid

end DatabaseUpgrade

namespace Deployment

/-- The upgrade of a deployment keeps its record in the registry of the deployment. -/
theorem databaseUpgrade_eq {d : Deployment} {u : DatabaseUpgrade} (hu : d.databaseUpgrade = .ok u) :
    u.registry = d.registry ∧ DatabasePhase.ranks? = some u.ranks := by
  unfold databaseUpgrade at hu
  split at hu
  · rename_i ranks hranks
    cases hu
    exact ⟨rfl, hranks⟩
  · cases hu

theorem upgradePlan_eq {d : Deployment} {u : DatabaseUpgrade} (hu : d.databaseUpgrade = .ok u) :
    d.upgradePlan (σ := σ) false = .ok [u.step] := by
  unfold upgradePlan
  rw [hu]
  rfl

variable (d : Deployment) {endpoint : Option String} {u : DatabaseUpgrade} {app : Application} {latest : Nat}
  {stack : List Json} {record : Json}

/-- The plan takes up an upgrade of which there is a record unless the latest revision runs and no upgrade is in
progress.  A run that does not fail leaves no record if it has taken up the upgrade; otherwise it has done nothing, and
the record is still there. -/
theorem upgradePlan_record (hreg : d.registry = .shared endpoint) (candid : Host.Candid σ)
    (hu : d.databaseUpgrade = .ok u) (title : String) (w : World σ)
    (hfinds : u.Finds (w.note (.status (u.step (σ := σ)).description)) app latest stack record) :
    d.upgradePlan (σ := σ) false = .ok [u.step] ∧
      (u.step.check (w.note (.status (u.step (σ := σ)).description))).1 =
        (if DatabaseUpgrade.Settled app latest stack then u.alreadyLatest latest else .completed) ∧
      ∃ report, (Plan.run title [u.step] w).1 = .ok report ∧
        (DatabaseUpgrade.Settled app latest stack → report.success = true ∧ report.executed = 0 ∧
          (Plan.run title [u.step] w).2.store.get? u.settings.stateKey = some record) ∧
        (¬ DatabaseUpgrade.Settled app latest stack → report.executed = 1 ∧ (report.success = true →
          (Plan.run title [u.step] w).2.store.get? u.settings.stateKey = none)) := by
  obtain ⟨hregistry, hr⟩ := databaseUpgrade_eq hu
  have hreg : u.registry = .shared endpoint := hregistry.trans hreg
  obtain ⟨_, hcheck, -⟩ := hfinds.step_check
  refine ⟨upgradePlan_eq hu, by rw [hcheck], ?_⟩
  by_cases hsettled : DatabaseUpgrade.Settled app latest stack
  · obtain ⟨w', hvisit, hstore⟩ := DatabaseUpgrade.step_visit_settled hsettled hfinds
    rw [Plan.run_single title hvisit]
    refine ⟨_, rfl, fun _ => ⟨rfl, rfl, ?_⟩, fun hdue => absurd hsettled hdue⟩
    have hheld := hfinds.held hreg
    rw [hstore]
    exact hheld
  · obtain ⟨o, w', hvisit, hleft⟩ := DatabaseUpgrade.step_visit_due hreg hr candid hsettled hfinds
    rw [Plan.run_single title hvisit]
    refine ⟨_, rfl, fun hsettled' => absurd hsettled' hsettled, fun _ => ⟨rfl, fun hsuccess => hleft ?_⟩⟩
    simpa [PlanReport.success, Plan.isFailed_outcomeOf, Visit.failed, Visit.outcome] using hsuccess

end Deployment

/-! ## An upgrade interrupted late -/

/-- A host for which everything goes well, with a published revision and upgrades in progress. -/
structure Publishing where
  obliging : Obliging
  latest : Nat
  stack : List Json

namespace Publishing

instance : Host Publishing where
  run here files c h :=
    let (reply, obliging) := Host.run here files c h.obliging
    (reply, { h with obliging })
  answer c h := match c with
    | .latestRevision .. => ((0, .ok (some h.latest)), h)
    | .upgradeStack _ => ((0, .ok h.stack), h)
    | c =>
      let (reply, obliging) := Host.answer c h.obliging
      (reply, { h with obliging })
  exchange _ h := (none, h)
  disturb _ h := (none, h)
  refuse _ h := (none, h)

theorem candid : Host.Candid Publishing := by
  intro a h f hrefused
  cases hrefused

/-- What was noted of an upgrade that has still to wait for its units and to scale back. -/
def resumed : Json := Progress.toJson ⟨DatabasePhase.upgradeResumed.name, ⟨some 0, some 1⟩, none, none⟩

/-- The application in revision 1, with the units that were added for its upgrade. -/
def grown : Application := { Obliging.single "mysql" with scale := Upgrade.targetScale 1 }

/-- The upgrade of the application was interrupted, and by now this revision is the latest. -/
def interrupted (latest : Nat) : World Publishing :=
  { World.start ⟨⟨grown⟩, latest, []⟩ "" FileTree.empty with
    store := Table.empty.insert Config.Upgrade.default.stateKey resumed }

end Publishing

namespace Deployment

/-- A deployment whose manifest has the database on its track. -/
def database : Deployment :=
  ⟨Config.default, Manifest.empty.withCore "mysql-k8s" ⟨some "8.0/stable", none, none, Table.empty⟩, .shared none, .direct⟩

/-- The upgrade of its database. -/
def databaseDue : DatabaseUpgrade :=
  { DatabaseUpgrade.standard with manifest := database.manifest, delay := database.wait.delay }

theorem databaseUpgrade_database : database.databaseUpgrade = .ok databaseDue := by
  unfold databaseUpgrade
  rw [DatabaseUpgrade.ranks_standard]
  rfl

/-- The step in the world in which it is checked. -/
theorem finds_interrupted (latest : Nat) :
    databaseDue.Finds ((Publishing.interrupted latest).note (.status (databaseDue.step (σ := Publishing)).description))
      Publishing.grown latest [] Publishing.resumed :=
  ⟨⟨some "8.0/stable", none, none, Table.empty⟩, "8.0/stable", "mysql/0", _, _, _, _, _, rfl, rfl, rfl, rfl, rfl, rfl,
    rfl, rfl, rfl⟩

theorem upgradePlan_record_due : database.registry = .shared none ∧ Host.Candid Publishing ∧
    database.databaseUpgrade = .ok databaseDue ∧
    databaseDue.Finds ((Publishing.interrupted 2).note (.status (databaseDue.step (σ := Publishing)).description))
      Publishing.grown 2 [] Publishing.resumed ∧
    (databaseDue.step.check
      ((Publishing.interrupted 2).note (.status (databaseDue.step (σ := Publishing)).description))).1 = .completed ∧
    (∃ report, (Plan.run "upgrade" [databaseDue.step] (Publishing.interrupted 2)).1 = .ok report ∧
      report.executed = 1 ∧ report.success = true) ∧
    (Plan.run "upgrade" [databaseDue.step] (Publishing.interrupted 2)).2.store.get? databaseDue.settings.stateKey = none := by
  have hnotSettled : ¬ DatabaseUpgrade.Settled Publishing.grown 2 [] := by decide +kernel
  obtain ⟨-, hcheck, report, hreport, -, hdue⟩ := upgradePlan_record database rfl Publishing.candid databaseUpgrade_database "upgrade"
    (Publishing.interrupted 2) (finds_interrupted 2)
  obtain ⟨hexecuted, hleft⟩ := hdue hnotSettled
  have hsuccess : (Plan.run "upgrade" [databaseDue.step] (Publishing.interrupted 2)).1.map PlanReport.success =
      .ok true := by decide +kernel
  rw [hreport] at hsuccess
  have hsuccess : report.success = true := Except.ok.inj hsuccess
  exact ⟨rfl, Publishing.candid, databaseUpgrade_database, finds_interrupted 2, hcheck.trans (if_neg hnotSettled),
    ⟨report, hreport, hexecuted, hsuccess⟩, hleft hsuccess⟩

/-- The latest revision runs and no upgrade is in progress, but the database has still to be scaled back: the upgrade
is not taken up, its record stays, and so do the units that were added. -/
theorem interrupted_late : database.upgradePlan (σ := Publishing) false = .ok [databaseDue.step] ∧
    databaseDue.Finds ((Publishing.interrupted 1).note (.status (databaseDue.step (σ := Publishing)).description))
      Publishing.grown 1 [] Publishing.resumed ∧
    (databaseDue.ranks.parse DatabasePhase.upgradeResumed.name).map databaseDue.ranks.rank = some 5 ∧
    (Plan.run "upgrade" [databaseDue.step] (Publishing.interrupted 1)).1.map PlanReport.success = .ok true ∧
    (Plan.run "upgrade" [databaseDue.step] (Publishing.interrupted 1)).1.map PlanReport.executed = .ok 0 ∧
    ((Plan.run "upgrade" [databaseDue.step] (Publishing.interrupted 1)).2.store.get?
      databaseDue.settings.stateKey).isSome = true ∧
    (Plan.run "upgrade" [databaseDue.step] (Publishing.interrupted 1)).2.host.obliging.application.scale = 3 := by
  refine ⟨upgradePlan_eq databaseUpgrade_database, finds_interrupted 1, ?_⟩
  decide +kernel

end Deployment

end Rollout
