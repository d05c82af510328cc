import Rollout.Proofs.Upgrade.Arrival
import Rollout.Proofs.Upgrade.History
import Rollout.Proofs.Upgrade.Keys

/-!
# Rollout.Proofs.Upgrade.Failures — how the phases of an upgrade fail

Where the registry refuses nothing, a phase fails in one of two ways.  Most faults of the orchestrator are told with the
name of the phase and what to do about them.  But three phases begin by reading the application, and pass the fault of
that read on as it is, without either.  The last of them is the one that shrinks the application, whose other failures
are let pass.

* `DatabaseUpgrade.remediation`: what to do when a phase fails; `DatabaseUpgrade.bareFault`: the fault passed on.
* `DatabaseUpgrade.phase_fails`: every failure of a phase is of one of the two ways.
* `DatabaseUpgrade.Shrinks`, `run_shrinks`: the runs that have nothing left but to shrink.
* `DatabaseUpgrade.Reports`, `run_reports`: what every run reports that fails.
-/

namespace Rollout

/-- The host refuses no access to the store. -/
def Host.Granting (σ : Type) [Host σ] : Prop := ∀ (a : Access) (s : σ), (Host.refuse a s).1 = none

theorem Host.Granting.candid {σ : Type} [Host σ] (h : Host.Granting σ) : Host.Candid σ := by
  intro a s f hrefused
  cases (h a s).symm.trans hrefused

namespace DatabaseUpgrade

variable {σ : Type} [Host σ] (u : DatabaseUpgrade)

/-! ## The ways to fail -/

/-- What an operator is told to do when a phase fails. -/
def remediation (k : DatabasePhase) (b : Baseline) : String :=
  match k with
  | .scaledUp => if b.scale.isSome then retryHint else resetHint
  | .unitsSettled => u.rollbackHint b
  | _ => retryHint

/-- Whether a phase begins by reading the application. -/
def readsFirst (k : DatabasePhase) (b : Baseline) : Bool :=
  match k with
  | .baselineRecorded | .primaryUnitUpgraded => true
  | .scaledBack => b.scale.isSome
  | _ => false

/-- The fault that a phase passes on as it is: that of the read with which it begins. -/
def bareFault (k : DatabasePhase) (b : Baseline) (w : World σ) : Option Fault :=
  if readsFirst k b then
    match (u.orchestrator.ask (.application u.app) w).1 with
    | .error f => some f
    | .ok _ => none
  else none

/-- A phase that started in `w` fails with `f` in `w'`, and no document was changed: it passes a fault on, or tells its
name, a reason and what to do. -/
structure FailsAs (b : Baseline) (k : DatabasePhase) (w : World σ) (f : Fault) (w' : World σ) : Prop where
  store : w'.store = w.store
  fault : match u.bareFault k b w with
    | some f' => f = f'
    | none => k ≠ .scaledBack ∧ ∃ reason, f = failure k reason (u.remediation k b)

variable {u} {endpoint : Option String} {p k : DatabasePhase} {b : Baseline} {w w' w₁ : World σ} {f : Fault}

theorem bareFault_of_error (hreads : readsFirst k b = true)
    (h : u.orchestrator.ask (.application u.app) w = (.error f, w')) : u.bareFault k b w = some f := by
  unfold bareFault
  rw [if_pos hreads, h]

theorem bareFault_of_ok {found : Option Application}
    (h : u.orchestrator.ask (.application u.app) w = (.ok found, w')) : u.bareFault k b w = none := by
  unfold bareFault
  rw [h]
  split <;> rfl

theorem read_of_bareFault (h : u.bareFault k b w = some f) : readsFirst k b = true ∧
    ∃ w', u.orchestrator.ask (.application u.app) w = (.error f, w') := by
  unfold bareFault at h
  split at h
  · rename_i hreads
    refine ⟨hreads, (u.orchestrator.ask (.application u.app) w).2, Prod.ext ?_ rfl⟩
    split at h
    · rename_i hread
      cases h
      exact hread
    · cases h
  · cases h

theorem leaderAction_fails {action : String} (h : u.leaderAction k action w = (.error f, w')) :
    w'.store = w.store ∧ ∃ reason, f = failure k reason retryHint := by
  refine ⟨store_eq_of_keeps (fun key => u.leaderAction_keeps key k action) h, ?_⟩
  unfold leaderAction at h
  obtain ⟨leader, w₁, -, hrest⟩ := Act.attempt_bind_eq h
  cases leader with
  | error e =>
    cases hrest
    exact ⟨_, rfl⟩
  | ok leader =>
    obtain ⟨done, w₂, -, hend⟩ := Act.attempt_bind_eq hrest
    cases done with
    | error e =>
      cases hend
      exact ⟨_, rfl⟩
    | ok _ => cases hend

theorem failsAs_bare (hbare : u.bareFault k b w = some f) (hstore : w'.store = w.store) : u.FailsAs b k w f w' where
  store := hstore
  fault := by rw [hbare]

theorem failsAs_told {reason : String} (hbare : u.bareFault k b w = none) (hk : k ≠ .scaledBack)
    (hstore : w'.store = w.store) : u.FailsAs b k w (failure k reason (u.remediation k b)) w' where
  store := hstore
  fault := by
    rw [hbare]
    exact ⟨hk, reason, rfl⟩

section Phases

variable (hreg : u.registry = .shared endpoint) (hr : DatabasePhase.ranks? = some u.ranks)
  (granting : Host.Granting σ)
include hreg hr granting

/-- A later phase is always noted. -/
theorem advance_ne_error (h : p.place < k.place) : (u.stage p b).advance k w ≠ (.error f, w') := by
  intro hfails
  obtain ⟨t, -, hok, -⟩ := advance_granted (b := b) hreg hr h (w := w) (granting _ _)
  rw [hfails] at hok
  cases hok

theorem recordBaseline_fails (h : p.place < DatabasePhase.baselineRecorded.place)
    (hfails : u.recordBaseline (u.stage p b) w = (.error f, w')) : u.FailsAs b .baselineRecorded w f w' := by
  unfold recordBaseline at hfails
  rw [through_of_not_reached hr h] at hfails
  rcases Act.bind_eq_error hfails with hread | ⟨found, w₁, hread, hrest⟩
  · exact failsAs_bare (bareFault_of_error rfl hread) (store_of_ask hread)
  · cases found with
    | none =>
      cases hrest
      exact failsAs_told (bareFault_of_ok hread) (by decide) (store_of_ask hread)
    | some app =>
      exact absurd hrest (advance_ne_error (b := app.baseline) hreg hr granting h)

theorem scaleUp_fails (h : p.place < DatabasePhase.scaledUp.place)
    (hfails : u.scaleUp (u.stage p b) w = (.error f, w')) : u.FailsAs b .scaledUp w f w' := by
  have hscale : (u.stage p b).baseline = b := rfl
  unfold scaleUp at hfails
  rw [through_of_not_reached hr h, hscale] at hfails
  cases hb : b.scale with
  | none =>
    rw [hb] at hfails
    cases hfails
    have hremediation : u.remediation .scaledUp b = resetHint := by simp [remediation, hb]
    rw [← hremediation]
    exact failsAs_told rfl (by decide) rfl
  | some o =>
    rw [hb] at hfails
    dsimp only at hfails
    rw [Act.publish_bind] at hfails
    obtain ⟨scaled, w₁, hscaled, hend⟩ := Act.attempt_bind_eq hfails
    cases scaled with
    | ok _ => exact absurd hend (advance_ne_error hreg hr granting h)
    | error e =>
      cases hend
      have hremediation : u.remediation .scaledUp b = retryHint := by simp [remediation, hb]
      have hstore := store_eq_of_keeps (fun key => u.scaleAndWait_keeps key _) hscaled
      rw [← hremediation]
      exact failsAs_told rfl (by decide) hstore

/-- A phase that consists of an action on the leader. -/
theorem actionPhase_fails {action text : String} (h : p.place < k.place) (hreads : readsFirst k b = false)
    (hk : k ≠ .scaledBack) (hremediation : u.remediation k b = retryHint)
    (hfails : (do Act.publish text; u.leaderAction k action; (u.stage p b).advance k) w = (.error f, w')) :
    u.FailsAs b k w f w' := by
  rw [Act.publish_bind] at hfails
  rcases Act.bind_eq_error hfails with haction | ⟨_, w₁, -, hend⟩
  · obtain ⟨hstore, reason, rfl⟩ := leaderAction_fails haction
    rw [← hremediation]
    exact failsAs_told (if_neg (by simp [hreads])) hk hstore
  · exact absurd hend (advance_ne_error hreg hr granting h)

theorem upgradePrimaryUnit_fails (h : p.place < DatabasePhase.primaryUnitUpgraded.place)
    (hfails : u.upgradePrimaryUnit (u.stage p b) w = (.error f, w')) : u.FailsAs b .primaryUnitUpgraded w f w' := by
  unfold upgradePrimaryUnit at hfails
  rw [through_of_not_reached hr h] at hfails
  rcases Act.bind_eq_error hfails with hread | ⟨found, w₁, hread, hrest⟩
  · exact failsAs_bare (bareFault_of_error rfl hread) (store_of_ask hread)
  have hstore := store_of_ask hread
  have hbare : u.bareFault .primaryUnitUpgraded b w = none := bareFault_of_ok hread
  cases hunit : found.bind Application.highest? with
  | none =>
    rw [hunit] at hrest
    cases hrest
    exact failsAs_told hbare (by decide) hstore
  | some unit =>
    rw [hunit] at hrest
    dsimp only at hrest
    rw [Act.publish_bind] at hrest
    obtain ⟨refreshed, w₂, hrefresh, hrest⟩ := Act.attempt_bind_eq hrest
    have hrefreshed := (store_of_ask hrefresh).trans hstore
    cases refreshed with
    | error e =>
      cases hrest
      exact failsAs_told hbare (by decide) hrefreshed
    | ok _ =>
      obtain ⟨waited, w₃, hwait, hend⟩ := Act.attempt_bind_eq hrest
      cases waited with
      | ok _ => exact absurd hend (advance_ne_error hreg hr granting h)
      | error e =>
        cases hend
        have hwaited := store_eq_of_keeps (fun key => u.upgraded_keeps key _) hwait
        exact failsAs_told hbare (by decide) (hwaited.trans hrefreshed)

theorem waitUnitsSettled_fails (h : p.place < DatabasePhase.unitsSettled.place)
    (hfails : u.waitUnitsSettled (u.stage p b) w = (.error f, w')) : u.FailsAs b .unitsSettled w f w' := by
  unfold waitUnitsSettled at hfails
  rw [through_of_not_reached hr h] at hfails
  rw [Act.publish_bind] at hfails
  obtain ⟨waited, w₁, hwait, hend⟩ := Act.attempt_bind_eq hfails
  cases waited with
  | ok _ => exact absurd hend (advance_ne_error hreg hr granting h)
  | error e =>
    cases hend
    have hstore := store_eq_of_keeps (fun key => u.settled_keeps key _) hwait
    exact failsAs_told rfl (by decide) hstore

/-- Shrinking fails only where the application cannot be read. -/
theorem scaleBack_fails (h : p.place < DatabasePhase.scaledBack.place)
    (hfails : u.scaleBack (u.stage p b) w = (.error f, w')) : u.FailsAs b .scaledBack w f w' := by
  have hscale : (u.stage p b).baseline = b := rfl
  unfold scaleBack at hfails
  rw [through_of_not_reached hr h, hscale] at hfails
  cases hb : b.scale with
  | none =>
    rw [hb] at hfails
    cases hfails
  | some o =>
    rw [hb] at hfails
    rcases Act.bind_eq_error hfails with hread | ⟨found, w₁, hread, hrest⟩
    · have hreads : readsFirst .scaledBack b = true := by simp [readsFirst, hb]
      exact failsAs_bare (bareFault_of_error hreads hread) (store_of_ask hread)
    dsimp only at hrest
    split at hrest
    · cases hrest
    rw [Act.publish_bind] at hrest
    obtain ⟨scaled, w₂, -, hend⟩ := Act.attempt_bind_eq hrest
    cases scaled with
    | ok _ => exact absurd hend (advance_ne_error hreg hr granting h)
    | error e => cases hend

/-- Every failure of a phase is of one of the two ways. -/
theorem phase_fails (h : p.place < k.place) (hfails : u.phase k (u.stage p b) w = (.error f, w')) :
    u.FailsAs b k w f w' := by
  cases k with
  | start => exact absurd h (Nat.not_lt_zero _)
  | baselineRecorded => exact recordBaseline_fails hreg hr granting h hfails
  | scaledUp => exact scaleUp_fails hreg hr granting h hfails
  | precheckDone =>
    have hphase : u.phase .precheckDone (u.stage p b) w = _ := congrFun (through_of_not_reached hr h _) w
    exact actionPhase_fails hreg hr granting h rfl (by decide) rfl (hphase.symm.trans hfails)
  | primaryUnitUpgraded => exact upgradePrimaryUnit_fails hreg hr granting h hfails
  | upgradeResumed =>
    have hphase : u.phase .upgradeResumed (u.stage p b) w = _ := congrFun (through_of_not_reached hr h _) w
    exact actionPhase_fails hreg hr granting h rfl (by decide) rfl (hphase.symm.trans hfails)
  | unitsSettled => exact waitUnitsSettled_fails hreg hr granting h hfails
  | scaledBack => exact scaleBack_fails hreg hr granting h hfails

omit hr in
/-- What is noted is always loaded. -/
theorem load_granted (w : World σ) : ∃ t w₁, w.Leads t w₁ ∧ Event.changesOf t = [] ∧
    u.tracker.load w = (.ok ((u.stage (u.noted w).1 (u.noted w).2).tracker, .ok (u.noted w).2), w₁) := by
  obtain ⟨t, hl, ht, ⟨tracker, f, -, hrefused⟩ | hloaded⟩ := load_ends hreg w
  · cases (granting _ _).symm.trans hrefused
  · exact ⟨t, _, hl, ht, Prod.ext hloaded rfl⟩

omit hr in
/-- At its end a run always leaves no document. -/
theorem close_granted (p : DatabasePhase) (b : Baseline) (w : World σ) :
    (u.close (u.stage p b)).Ends w fun r _ w' =>
      (∃ o, r = .ok o ∧ o.kind = .completed) ∧ w'.store.get? u.settings.stateKey = none := by
  refine Act.ends_bind ((clear_ends hreg p w).mono ?_)
  rintro r t w' hl (⟨⟨f, rfl, hrefused⟩, -⟩ | ⟨⟨tracker, rfl⟩, hremoved⟩)
  · cases (granting _ _).symm.trans hrefused
  · refine Act.ends_pure ⟨⟨_, rfl, rfl⟩, ?_⟩
    rcases hremoved with ht | ⟨-, hmissing⟩
    · rw [hl.store, ← Store.replay_changesOf, ht]
      exact Table.get?_erase_self _ _
    · exact hmissing granting.candid

/-! ## Runs -/

/-- A run that fails has come to a phase that was not reached before, and fails in it. -/
theorem upgrade_fails (h : u.upgrade w = (.error f, w')) :
    ∃ k p b w₁ t, u.Comes w k (u.stage p b) w₁ ∧ u.Arrival w k (u.stage p b) w₁ t p b ∧ k.place = p.place + 1 ∧
      u.FailsAs b k w₁ f w' := by
  obtain ⟨_, w₀, -, -, hload⟩ := load_granted hreg granting w
  obtain ⟨k, s, w₁, hcomes, hfails⟩ := (Comes.load hload).exists_failing h
  obtain ⟨t, p, b, harrival⟩ := hcomes.arrival hreg hr
  obtain rfl := harrival.stage
  rcases hfails with hphase | ⟨rfl, s', w₂, hphase, hclose⟩
  · have hnext : p.place + 1 = k.place := by
      refine harrival.near.resolve_left fun hle => ?_
      rw [phase_of_reached hr hle] at hphase
      cases hphase
    exact ⟨k, p, b, w₁, t, hcomes, harrival, hnext.symm, phase_fails hreg hr granting (by omega) hphase⟩
  · obtain ⟨p', b', rfl⟩ := hcomes.stage_next hreg hr hphase
    obtain ⟨-, -, ⟨o, ho, -⟩, -⟩ := close_granted hreg granting p' b' w₂
    rw [hclose] at ho
    cases ho

omit granting in
theorem completed_of_ok {o : Outcome} (h : u.upgrade w = (.ok o, w')) : o.kind = .completed := by
  obtain ⟨t, -, b, ms, es, hends⟩ := upgrade_ends hreg hr w
  rw [h] at hends
  rcases hends.ends with ⟨⟨f, hf⟩, -⟩ | ⟨⟨o', ho, hkind⟩, -⟩
  · cases hf
  · cases ho
    exact hkind

omit hreg granting in
/-- A phase that begins by reading the application fails as the read does. -/
theorem phase_of_bareFault (h : p.place < k.place) (hbare : u.bareFault k b w = some f) :
    ∃ w', u.phase k (u.stage p b) w = (.error f, w') ∧ w'.store = w.store := by
  obtain ⟨hreads, w', hread⟩ := read_of_bareFault hbare
  refine ⟨w', ?_, store_of_ask hread⟩
  cases k with
  | baselineRecorded => exact (congrFun (through_of_not_reached hr h _) w).trans (Act.bind_of_error hread _)
  | primaryUnitUpgraded => exact (congrFun (through_of_not_reached hr h _) w).trans (Act.bind_of_error hread _)
  | scaledBack =>
    obtain ⟨o, ho⟩ := Option.isSome_iff_exists.mp hreads
    have hscale : (u.stage p b).baseline.scale = some o := ho
    show u.scaleBack (u.stage p b) w = _
    unfold scaleBack
    rw [through_of_not_reached hr h, hscale]
    exact Act.bind_of_error hread _
  | _ => cases hreads

end Phases

theorem body_of_error (h : u.upgrade w = (.error f, w')) : u.step.body w = (.ok (.ofFault f), w') := by
  rw [step_body, h]
  rfl

theorem body_of_ok {o : Outcome} (h : u.upgrade w = (.ok o, w')) : u.step.body w = (.ok o, w') := by
  rw [step_body, h]
  rfl

variable (u) in
/-- What a run amounts to that starts in `w` with all units settled.  It may shrink the application or let it be, but in
the end it completes and leaves no document, unless it cannot read the application. -/
structure Shrinks (w : World σ) : Prop where
  completes : (∀ f, (u.noted w).2.scale.isSome →
      (u.orchestrator.ask (.application u.app) (u.tracker.load w).2).1 ≠ .error f) →
    (u.step.body w).1.map Outcome.kind = .ok .completed ∧ (u.step.body w).2.store.get? u.settings.stateKey = none
  fails : ∀ f, (u.noted w).2.scale.isSome →
    (u.orchestrator.ask (.application u.app) (u.tracker.load w).2).1 = .error f →
    (u.step.body w).1 = .ok (.ofFault f) ∧
      (u.step.body w).2.store.get? u.settings.stateKey = w.store.get? u.settings.stateKey

section Shrinking

variable (hreg : u.registry = .shared endpoint) (hr : DatabasePhase.ranks? = some u.ranks)
  (granting : Host.Granting σ)
include hreg hr granting

/-- Whatever goes wrong in shrinking, a run with all units settled completes, unless it cannot read the application. -/
theorem run_shrinks (hsettled : (u.noted w).1 = .unitsSettled) : u.Shrinks w := by
  obtain ⟨t, w₀, hl, hquiet, hload⟩ := load_granted hreg granting w
  have hw₀ : (u.tracker.load w).2 = w₀ := congrArg Prod.snd hload
  rw [hsettled] at hload
  -- All phases before the last are passed over.
  have hrecorded : u.Comes w .baselineRecorded (u.stage .unitsSettled (u.noted w).2) w₀ := .load hload
  have hscaled : u.Comes w .scaledUp _ w₀ := hrecorded.pass hr (by decide) rfl
  have hchecked : u.Comes w .precheckDone _ w₀ := hscaled.pass hr (by decide) rfl
  have hprimary : u.Comes w .primaryUnitUpgraded _ w₀ := hchecked.pass hr (by decide) rfl
  have hresumed : u.Comes w .upgradeResumed _ w₀ := hprimary.pass hr (by decide) rfl
  have hsettled : u.Comes w .unitsSettled _ w₀ := hresumed.pass hr (by decide) rfl
  have hcomes : u.Comes w .scaledBack _ w₀ := hsettled.pass hr (by decide) rfl
  constructor
  case completes =>
    intro hread
    rw [hw₀] at hread
    cases hphase : u.phase .scaledBack (u.stage .unitsSettled (u.noted w).2) w₀ with
    | mk r w₁ =>
      cases r with
      | error f =>
        have hfault := (phase_fails hreg hr granting (by decide) hphase).fault
        cases hbare : u.bareFault .scaledBack (u.noted w).2 w₀ with
        | none =>
          rw [hbare] at hfault
          exact absurd rfl hfault.1
        | some f' =>
          obtain ⟨hscale, w', hfailed⟩ := read_of_bareFault hbare
          exact absurd (congrArg Prod.fst hfailed) (hread f' hscale)
      | ok s =>
        obtain ⟨p', b', rfl⟩ := hcomes.stage_next hreg hr hphase
        obtain ⟨-, -, ⟨o, ho, hkind⟩, hnone⟩ := close_granted hreg granting p' b' w₁
        have hrun : u.upgrade w = (.ok o, (u.close (u.stage p' b') w₁).2) := by
          rw [hcomes.upgrade_eq, onward_last, Act.bind_of_ok hphase]
          exact Prod.ext ho rfl
        rw [body_of_ok hrun]
        exact ⟨congrArg Except.ok hkind, hnone⟩
  case fails =>
    intro f hscale hread
    rw [hw₀] at hread
    have hbare : u.bareFault .scaledBack (u.noted w).2 w₀ = some f := bareFault_of_error hscale (Prod.ext hread rfl)
    obtain ⟨w', hphase, hstore⟩ := phase_of_bareFault (p := .unitsSettled) hr (by decide) hbare
    rw [body_of_error (hcomes.upgrade_eq.trans (onward_of_error hphase))]
    refine ⟨rfl, ?_⟩
    show w'.store.get? _ = _
    rw [hstore, hl.store, ← Store.replay_changesOf, hquiet]
    rfl

end Shrinking

/-- The world of a host where no upgrade was begun, and where some calls fail. -/
def unbegun (fails : Call → Bool) : World Wayward := Wayward.world "mysql" fails fun _ => false

/-- The same where all units have settled after one unit was scaled to three. -/
def outgrown (fails : Call → Bool) : World Wayward :=
  { unbegun fails with
    host := ⟨⟨{ Obliging.single "mysql" with scale := 3 }⟩, fails, fun _ => false⟩
    store := Table.empty.insert standard.settings.stateKey
      (Progress.toJson ⟨DatabasePhase.unitsSettled.name, ⟨some 1, some 1⟩, none, none⟩) }

/-- The calls that scale an application. -/
def scales (c : Call) : Bool := c matches .scale ..

/-- The calls that read an application. -/
def reads (c : Call) : Bool := c matches .application ..

theorem run_shrinks_denied : standard.registry = .shared none ∧ DatabasePhase.ranks? = some standard.ranks ∧
    Host.Granting Wayward ∧ (standard.noted (outgrown scales)).1 = .unitsSettled ∧
    (standard.step.body (outgrown scales)).2.log.filterMap Event.changingCall? = [.scale "mysql" 1] ∧
    (standard.step.body (outgrown scales)).1.map Outcome.kind = .ok .completed ∧
    standard.Shrinks (outgrown scales) := by
  have granting : Host.Granting Wayward := fun _ _ => rfl
  have hsettled : (standard.noted (outgrown scales)).1 = .unitsSettled := by decide +kernel
  exact ⟨rfl, ranks_standard, granting, hsettled, by decide +kernel, by decide +kernel,
    run_shrinks rfl ranks_standard granting hsettled⟩

/-- All units have settled and no access is refused, but the application cannot be read: the run fails, and the document
is still there. -/
theorem unread_when_settled : Host.Granting Wayward ∧ (standard.noted (outgrown reads)).1 = .unitsSettled ∧
    (standard.step.body (outgrown reads)).1.map Outcome.kind = .ok .failed ∧
    (standard.step.body (outgrown reads)).1.map Outcome.message = .ok (some Wayward.lost.message) ∧
    ((standard.step.body (outgrown reads)).2.store.get? standard.settings.stateKey).isSome :=
  ⟨fun _ _ => rfl, by decide +kernel, by decide +kernel, by decide +kernel, by decide +kernel⟩

/-! ## Reports -/

variable (u) in
/-- What a run reports that starts in `w`: if it fails, the phase after the one that is noted in the end, a reason and
what to do, unless that phase could not read the application with which it begins. -/
structure Reports (w : World σ) : Prop where
  failed : ∃ o w', u.step.body w = (.ok o, w') ∧ (o.kind = .failed → ∃ k w₁,
    k.place = (u.noted w').1.place + 1 ∧ u.Comes w k (u.stage (u.noted w').1 (u.noted w').2) w₁ ∧
    match u.bareFault k (u.noted w').2 w₁ with
    | some f => o = .ofFault f
    | none => ∃ reason, o.message = some (k.name ++ ": " ++ reason ++ "\n" ++ u.remediation k (u.noted w').2))
  bare : ∀ k p b w₁ f, u.Comes w k (u.stage p b) w₁ → p.place < k.place → u.bareFault k b w₁ = some f →
    (u.step.body w).1 = .ok (.ofFault f)

theorem message_failure (k : DatabasePhase) (reason remediation : String) :
    (Outcome.ofFault (failure k reason remediation)).message =
      some (k.name ++ ": " ++ reason ++ "\n" ++ remediation) := by
  have hmessage : (failure k reason remediation).message = k.name ++ ": " ++ reason ++ "\n" ++ remediation := rfl
  have hblank : Text.isBlank (k.name ++ ": " ++ reason ++ "\n" ++ remediation) = false := by
    have hname : k.name.toList.all Text.isBlankChar = false := by cases k <;> decide
    simp [Text.isBlank, hname]
  unfold Outcome.ofFault Outcome.failed
  simp only [hmessage, hblank, Bool.false_eq_true, if_false]

section Reporting

variable (hreg : u.registry = .shared endpoint) (hr : DatabasePhase.ranks? = some u.ranks)
  (granting : Host.Granting σ)
include hreg hr granting

/-- A run that fails reports the phase in which it fails, unless that phase could not read the application. -/
theorem run_reports (hfits : u.FitsAtFirst w) (hdates : ∀ i, w.Shows (u.step.body w).2 i → i.InCalendar) :
    u.Reports w := by
  constructor
  case failed =>
    cases hrun : u.upgrade w with
    | mk r w' =>
      cases r with
      | ok o =>
        refine ⟨o, w', body_of_ok hrun, fun hfailed => ?_⟩
        cases (completed_of_ok hreg hr hrun).symm.trans hfailed
      | error f =>
        have hend := body_of_error hrun
        refine ⟨_, w', hend, fun _ => ?_⟩
        rw [hend] at hdates
        obtain ⟨k, p, b, w₁, t, hcomes, harrival, hplace, hfails⟩ := upgrade_fails hreg hr granting hrun
        obtain ⟨t', hl'⟩ := hcomes.leads_after hreg hr
        rw [hrun] at hl'
        have hnoted : u.noted w' = (p, b) := by
          rw [← harrival.noted hfits fun i hi => hdates i (hi.later hl')]
          unfold noted
          rw [hfails.store]
        rw [hnoted]
        refine ⟨k, w₁, hplace, hcomes, ?_⟩
        have hfault := hfails.fault
        cases hbare : u.bareFault k b w₁ with
        | some f' =>
          rw [hbare] at hfault
          exact congrArg Outcome.ofFault hfault
        | none =>
          rw [hbare] at hfault
          obtain ⟨-, reason, rfl⟩ := hfault
          exact ⟨reason, message_failure k reason _⟩
  case bare =>
    intro k p b w₁ f hcomes h hbare
    obtain ⟨w', hphase, -⟩ := phase_of_bareFault hr h hbare
    rw [body_of_error (hcomes.upgrade_eq.trans (onward_of_error hphase))]

end Reporting

theorem run_reports_denied : standard.registry = .shared none ∧ DatabasePhase.ranks? = some standard.ranks ∧
    Host.Granting Wayward ∧ standard.FitsAtFirst (unbegun scales) ∧
    (∀ i, (unbegun scales).Shows (standard.step.body (unbegun scales)).2 i → i.InCalendar) ∧
    (standard.step.body (unbegun scales)).1.map Outcome.kind = .ok .failed ∧
    (standard.noted (standard.step.body (unbegun scales)).2).1 = .baselineRecorded ∧
    standard.Reports (unbegun scales) := by
  have granting : Host.Granting Wayward := fun _ _ => rfl
  have hregular := Run.regular_standard (w := unbegun scales) (by decide +kernel)
    ⟨by decide +kernel, by decide +kernel, by decide +kernel, by decide +kernel⟩ (by decide +kernel)
  exact ⟨rfl, ranks_standard, granting, hregular.fits, hregular.dates, by decide +kernel, by decide +kernel,
    run_reports rfl ranks_standard granting hregular.fits hregular.dates⟩

/-- The first phase cannot read the application, and the run tells neither its name nor what to do. -/
theorem fault_untold : Host.Granting Wayward ∧
    (standard.step.body (unbegun reads)).1.map Outcome.kind = .ok .failed ∧
    (standard.noted (standard.step.body (unbegun reads)).2).1 = .start ∧
    ∃ message, (standard.step.body (unbegun reads)).1.map Outcome.message = .ok (some message) ∧
      ¬ (DatabasePhase.baselineRecorded.name ++ ": ").toList <+: message.toList ∧
      ∀ b, ¬ (standard.remediation .baselineRecorded b).toList <:+ message.toList := by
  have hhint : ¬ retryHint.toList <:+ Wayward.lost.message.toList := by decide +kernel
  exact ⟨fun _ _ => rfl, by decide +kernel, by decide +kernel, Wayward.lost.message, by decide +kernel,
    by decide +kernel, fun _ => hhint⟩

end DatabaseUpgrade

end Rollout
