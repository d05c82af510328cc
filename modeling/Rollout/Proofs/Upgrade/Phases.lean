import Rollout.Proofs.Upgrade.Moves
import Rollout.Proofs.Upgrade.Tracker

/-!
# Rollout.Proofs.Upgrade.Phases — what the phases of an upgrade leave behind

A phase that was reached before does nothing.  Any other phase makes its moves from the first on and either comes to
their end, with the tracker at the phase, or stops with a fault.  Put together from the last phase to the first, a run
makes a first part of the moves that are left after the phase it found.

* `DatabaseUpgrade.PhaseEnds`: how a phase ends.
* `scaleUp_ends`, `precheck_ends`, …: each phase ends so.
* `drive_ends`: the phases one after another.
* `upgrade_ends`: a whole run, from the document it finds to the removal of the document.
-/

namespace Rollout

/-- What is noted of an application at the start of its upgrade. -/
def Application.baseline (app : Application) : Baseline := ⟨app.revision, some app.scale⟩

namespace DatabaseUpgrade

variable {σ : Type} [Host σ]
variable (u : DatabaseUpgrade) {endpoint : Option String}

/-- The stage of a phase. -/
def stage (p : DatabasePhase) (b : Baseline) : Stage := ⟨{ u.tracker with current := p }, b⟩

/-- How a phase ends that was begun in `w`: with all its moves made, or with the first of them and a fault. -/
def PhaseEnds (b : Baseline) (k : DatabasePhase) (w : World σ) (r : Except Fault Stage) (t : List Event)
    (w' : World σ) : Prop :=
  (∃ f ms, r = .error f ∧ ms <+: k.ownMoves ∧ u.Follows b (w.Shows w') ms (Event.changesOf t)) ∨
    (r = .ok (u.stage k b) ∧ u.Follows b (w.Shows w') k.ownMoves (Event.changesOf t))

/-- An action that makes the call of a phase, or fails before it comes to that. -/
def CallEnds {α : Type} (b : Baseline) (k : DatabasePhase) (r : Except Fault α) (t : List Event) : Prop :=
  (Event.changesOf t = [] ∧ ∃ f, r = .error f) ∨ ∃ c, u.Makes b k c ∧ Event.changesOf t = [.call c]

variable {u} {b : Baseline} {p k : DatabasePhase} {w w₀ : World σ} {t₀ : List Event}

/-! ## Parts of a phase -/

omit [Host σ] in
theorem through_of_reached (hr : DatabasePhase.ranks? = some u.ranks) (h : k.place ≤ p.place) (x : Act σ Stage) :
    (u.stage p b).through k x = pure (u.stage p b) := by
  have hreached : (u.stage p b).tracker.reached k = true := by
    simp [stage, Tracker.reached, PhaseRanks.reached, tracker, Tracker.fresh, DatabasePhase.rank_eq_place hr, h]
  rw [Stage.through, if_pos hreached]

omit [Host σ] in
theorem through_of_not_reached (hr : DatabasePhase.ranks? = some u.ranks) (h : p.place < k.place) (x : Act σ Stage) :
    (u.stage p b).through k x = x := by
  have hreached : ¬ (u.stage p b).tracker.reached k = true := by
    simp [stage, Tracker.reached, PhaseRanks.reached, tracker, Tracker.fresh, DatabasePhase.rank_eq_place hr, h]
  rw [Stage.through, if_neg hreached]

/-- A phase is noted with the date of the world, unless the host refuses or a later phase is noted. -/
theorem advance_step (hreg : u.registry = .shared endpoint) (hr : DatabasePhase.ranks? = some u.ranks) (w : World σ) :
    ((u.stage p b).advance k).Ends w fun r t _ =>
      (r = .ok (u.stage k b) ∧ t = [.access (.put u.settings.stateKey (record b k w.date w.holder)) true]) ∨
        ∃ f, r = .error f ∧ (t = [] ∧ k.place < p.place ∨
          t = [.access (.put u.settings.stateKey (record b k w.date w.holder)) false] ∧
            (Host.refuse (.put u.settings.stateKey (record b k w.date w.holder)) w.host).1 = some f) := by
  have hdocument : (u.stage p b).tracker.document k b w = record b k w.date w.holder := by
    have hname : (u.stage p b).tracker.ranks.name k = k.name := by
      rw [← DatabasePhase.name_eq hr]
      rfl
    unfold Tracker.document record
    rw [hname]
  unfold Stage.advance
  refine Act.ends_bind ?_
  by_cases hback : u.ranks.rank k < u.ranks.rank p
  · have hplace : k.place < p.place := by
      rwa [DatabasePhase.rank_eq_place hr, DatabasePhase.rank_eq_place hr] at hback
    refine ⟨[], ?_, ?_⟩
    · rw [Tracker.advance_back (t := (u.stage p b).tracker) hback]
      exact World.Leads.refl w
    · rw [Tracker.advance_back (t := (u.stage p b).tracker) hback]
      exact .inr ⟨_, rfl, .inl ⟨rfl, hplace⟩⟩
  · refine (Tracker.advance_ends (t := (u.stage p b).tracker) hreg hback b w).mono ?_
    rw [hdocument]
    rintro r t w' - (⟨rfl, rfl⟩ | ⟨f, rfl, rfl, hrefused⟩)
    · exact Act.ends_pure (.inl ⟨rfl, rfl⟩)
    · exact .inr ⟨f, rfl, .inr ⟨rfl, hrefused⟩⟩

/-- A later phase is noted unless the host refuses. -/
theorem advance_granted (hreg : u.registry = .shared endpoint) (hr : DatabasePhase.ranks? = some u.ranks)
    (h : p.place < k.place) {w : World σ}
    (hgranted : (Host.refuse (.put u.settings.stateKey (record b k w.date w.holder)) w.host).1 = none) :
    ((u.stage p b).advance k).Ends w fun r t _ =>
      r = .ok (u.stage k b) ∧ t = [.access (.put u.settings.stateKey (record b k w.date w.holder)) true] := by
  refine (advance_step hreg hr w).mono ?_
  rintro r t w' - (hnoted | ⟨f, -, ⟨-, hback⟩ | ⟨-, hrefused⟩⟩)
  · exact hnoted
  · exact absurd h (Nat.lt_asymm hback)
  · cases hgranted.symm.trans hrefused

/-- A phase is noted with a date that the clock shows, or not at all. -/
theorem advance_ends (hreg : u.registry = .shared endpoint) (hr : DatabasePhase.ranks? = some u.ranks)
    (w : World σ) : ((u.stage p b).advance k).Ends w fun r t w' =>
      (Event.changesOf t = [] ∧ ∃ f, r = .error f) ∨
        (r = .ok (u.stage k b) ∧ u.Follows b (w.Shows w') [.note k] (Event.changesOf t)) := by
  refine (advance_step hreg hr w).mono ?_
  rintro r t w' hl (⟨rfl, rfl⟩ | ⟨f, rfl, ⟨rfl, -⟩ | ⟨rfl, -⟩⟩)
  · exact .inr ⟨rfl, .cons ⟨w.date, w.holder, (World.shows_date w).later hl, rfl⟩ .nil⟩
  · exact .inl ⟨rfl, f, rfl⟩
  · exact .inl ⟨rfl, f, rfl⟩

/-- When the calls of a phase are made, its note is what is left of it. -/
theorem phaseEnds_of_advance (hreg : u.registry = .shared endpoint) (hr : DatabasePhase.ranks? = some u.ranks)
    (hl : w₀.Leads t₀ w) (hcalls : u.Follows b (w₀.Shows w) k.callMoves (Event.changesOf t₀)) :
    ((u.stage p b).advance k).Ends w fun r t w' => u.PhaseEnds b k w₀ r (t₀ ++ t) w' := by
  refine (advance_ends hreg hr w).mono fun r t w' hl' h => ?_
  have hcalls' := hcalls.mono fun i hi => hi.later hl'
  rcases h with ⟨hnone, f, rfl⟩ | ⟨rfl, hnote⟩
  · refine .inl ⟨f, k.callMoves, rfl, List.prefix_append _ _, ?_⟩
    rwa [Event.changesOf_append, hnone, List.append_nil]
  · refine .inr ⟨rfl, ?_⟩
    rw [Event.changesOf_append]
    exact hcalls'.append (hnote.mono fun i hi => hi.earlier hl)

/-- What a call leaves behind, as moves of its phase. -/
theorem follows_of_call {D : Instant → Prop} {t : List Event} {c : Call} (hk : k.hasCall) (hc : u.Makes b k c)
    (ht : Event.changesOf t = [.call c]) : u.Follows b D k.callMoves (Event.changesOf t) := by
  rw [ht, DatabasePhase.callMoves, if_pos hk]
  exact .cons ⟨c, hc, rfl⟩ .nil

/-- A phase that calls, and then notes that it is reached unless the call failed. -/
theorem phaseEnds_of_call {α : Type} {x : Act σ α} {next : Except Fault α → Act σ Stage}
    (hreg : u.registry = .shared endpoint) (hr : DatabasePhase.ranks? = some u.ranks) (hk : k.hasCall)
    (hx : x.Ends w fun r t _ => u.CallEnds b k r t)
    (hok : ∀ a, next (.ok a) = (u.stage p b).advance k) (hfail : ∀ f, ∃ f', next (.error f) = Act.fail f') :
    (x.attempt >>= next).Ends w (u.PhaseEnds b k w) := by
  refine Act.ends_bind (Act.ends_attempt (hx.mono fun r t w' hl h => ?_))
  dsimp only
  cases r with
  | error f =>
    obtain ⟨f', hf'⟩ := hfail f
    rw [hf']
    refine Act.ends_fail (.inl ?_)
    rw [List.append_nil]
    rcases h with ⟨hnone, -⟩ | ⟨c, hc, hcall⟩
    · exact ⟨f', [], rfl, List.nil_prefix, by rw [hnone]; exact .nil⟩
    · exact ⟨f', k.callMoves, rfl, List.prefix_append _ _, follows_of_call hk hc hcall⟩
  | ok a =>
    rw [hok a]
    rcases h with ⟨-, f, hf⟩ | ⟨c, hc, hcall⟩
    · cases hf
    · exact phaseEnds_of_advance hreg hr hl (follows_of_call hk hc hcall)

omit [Host σ] in
/-- Things that change nothing may come before a phase. -/
theorem PhaseEnds.after {x : Act σ Stage} (h : x.Ends w (u.PhaseEnds b k w)) (hl : w₀.Leads t₀ w)
    (hquiet : Event.changesOf t₀ = []) : x.Ends w fun r t w' => u.PhaseEnds b k w₀ r (t₀ ++ t) w' := by
  refine h.mono fun r t w' _ hends => ?_
  have ht : Event.changesOf (t₀ ++ t) = Event.changesOf t := by
    rw [Event.changesOf_append, hquiet, List.nil_append]
  unfold PhaseEnds
  rw [ht]
  rcases hends with ⟨f, ms, rfl, hms, hf⟩ | ⟨rfl, hf⟩
  · exact .inl ⟨f, ms, rfl, hms, hf.mono fun i hi => hi.earlier hl⟩
  · exact .inr ⟨rfl, hf.mono fun i hi => hi.earlier hl⟩

omit [Host σ] in
/-- A line of progress may be published before a phase. -/
theorem phaseEnds_of_publish {text : String} {x : Act σ Stage}
    (h : ∀ w, x.Ends w (u.PhaseEnds b k w)) (w : World σ) :
    (Act.publish text >>= fun _ => x).Ends w (u.PhaseEnds b k w) :=
  Act.ends_bind (Act.ends_publish (PhaseEnds.after (h _) (World.leads_note w rfl) rfl))

omit [Host σ] in
theorem phaseEnds_fail {f : Fault} {t : List Event} (h : Event.changesOf t = []) (w w' : World σ) :
    u.PhaseEnds b k w (.error f) t w' :=
  .inl ⟨f, [], rfl, List.nil_prefix, by rw [h]; exact .nil⟩

/-! ## The calls -/

theorem settled_quiet (p : Wait) (application : String) :
    (p.settled u.orchestrator application accepted : Act σ Application).Does fun e => e.changes = false := by
  have hcall : Event.changes (.call (.application application)) = false := rfl
  exact p.settled_does u.orchestrator application hcall (fun e he => he.not_changes) accepted

theorem upgraded_quiet (p : Wait) (application unit : String) :
    (p.upgraded u.orchestrator application unit : Act σ Unit).Does fun e => e.changes = false := by
  have hcall : Event.changes (.call (.application application)) = false := rfl
  exact p.upgraded_does u.orchestrator application hcall (fun e he => he.not_changes) unit

theorem scaleAndWait_ends (units : Nat) (w : World σ) :
    (u.scaleAndWait units).Ends w fun _ t _ => Event.changesOf t = [.call (.scale u.app units)] := by
  unfold scaleAndWait
  refine Act.ends_bind ((u.orchestrator.ask_changes (.scale u.app units) w).mono fun r t w' _ ht => ?_)
  cases r with
  | error f => exact ht
  | ok a =>
    refine (((settled_quiet _ u.app).bind fun _ => Act.does_pure ()) w').mono fun _ t' _ _ ht' => ?_
    rw [Event.changesOf_append, ht, Event.changesOf_eq_nil ht']
    rfl

theorem leaderAction_ends (phase : DatabasePhase) (action : String) (w : World σ)
    (hmakes : ∀ leader, u.Makes b k (.action leader action Table.empty)) :
    (u.leaderAction phase action).Ends w fun r t _ => u.CallEnds b k r t := by
  unfold leaderAction
  refine Act.ends_bind (Act.ends_attempt ((u.orchestrator.ask_changes (.leader u.app) w).mono fun r t w' _ ht => ?_))
  have ht : Event.changesOf t = [] := ht
  dsimp only
  cases r with
  | error f => exact Act.ends_fail (.inl ⟨by rw [List.append_nil, ht], _, rfl⟩)
  | ok leader =>
    refine Act.ends_bind (Act.ends_attempt
      ((u.orchestrator.ask_changes (.action leader action Table.empty) w').mono fun r t' w'' _ ht' => ?_))
    have hall : Event.changesOf (t ++ (t' ++ [])) = [.call (.action leader action Table.empty)] := by
      rw [List.append_nil, Event.changesOf_append, ht, ht']
      rfl
    dsimp only
    cases r with
    | error f => exact Act.ends_fail (.inr ⟨_, hmakes leader, hall⟩)
    | ok a => exact Act.ends_pure (.inr ⟨_, hmakes leader, hall⟩)

/-! ## The phases -/

section Phases

variable (hreg : u.registry = .shared endpoint) (hr : DatabasePhase.ranks? = some u.ranks)
include hreg hr

theorem scaleUp_ends (h : p.place < DatabasePhase.scaledUp.place) (w : World σ) :
    (u.scaleUp (u.stage p b)).Ends w (u.PhaseEnds b .scaledUp w) := by
  unfold scaleUp
  rw [through_of_not_reached hr h]
  have hscale : (u.stage p b).baseline = b := rfl
  rw [hscale]
  cases hb : b.scale with
  | none => exact Act.ends_fail (phaseEnds_fail rfl w w)
  | some before =>
    refine phaseEnds_of_publish (fun w => ?_) w
    refine phaseEnds_of_call hreg hr rfl ((scaleAndWait_ends _ w).mono fun _ _ _ _ ht => ?_)
      (fun _ => rfl) (fun _ => ⟨_, rfl⟩)
    exact .inr ⟨_, ⟨before, hb, rfl⟩, ht⟩

/-- A phase that consists of an action on the leader. -/
theorem actionPhase_ends {action text : String} (hk : k.hasCall) (w : World σ)
    (hmakes : ∀ leader, u.Makes b k (.action leader action Table.empty)) :
    (do Act.publish text; u.leaderAction k action; (u.stage p b).advance k).Ends w (u.PhaseEnds b k w) := by
  refine phaseEnds_of_publish (fun w => ?_) w
  refine Act.ends_bind ((leaderAction_ends k action w hmakes).mono fun r t w' hl h => ?_)
  rcases h with ⟨hnone, f, rfl⟩ | ⟨c, hc, hcall⟩
  · exact phaseEnds_fail hnone w w'
  · cases r with
    | error f => exact .inl ⟨f, k.callMoves, rfl, List.prefix_append _ _, follows_of_call hk hc hcall⟩
    | ok _ => exact phaseEnds_of_advance hreg hr hl (follows_of_call hk hc hcall)

theorem precheck_ends (h : p.place < DatabasePhase.precheckDone.place) (w : World σ) :
    (u.precheck (u.stage p b)).Ends w (u.PhaseEnds b .precheckDone w) := by
  unfold precheck
  rw [through_of_not_reached hr h]
  exact actionPhase_ends hreg hr rfl w fun leader => ⟨leader, rfl⟩

theorem resumeUpgrade_ends (h : p.place < DatabasePhase.upgradeResumed.place) (w : World σ) :
    (u.resumeUpgrade (u.stage p b)).Ends w (u.PhaseEnds b .upgradeResumed w) := by
  unfold resumeUpgrade
  rw [through_of_not_reached hr h]
  exact actionPhase_ends hreg hr rfl w fun leader => ⟨leader, rfl⟩

theorem upgradePrimaryUnit_ends (h : p.place < DatabasePhase.primaryUnitUpgraded.place) (w : World σ) :
    (u.upgradePrimaryUnit (u.stage p b)).Ends w (u.PhaseEnds b .primaryUnitUpgraded w) := by
  unfold upgradePrimaryUnit
  rw [through_of_not_reached hr h]
  refine Act.ends_bind ((u.orchestrator.ask_changes (.application u.app) w).mono fun r t w₁ hl₁ ht => ?_)
  cases r with
  | error f => exact phaseEnds_fail ht w w₁
  | ok found =>
    refine PhaseEnds.after ?_ hl₁ ht
    dsimp only
    split
    · exact Act.ends_fail (phaseEnds_fail rfl w₁ w₁)
    · rename_i unit _
      refine phaseEnds_of_publish (fun w => ?_) w₁
      refine Act.ends_bind (Act.ends_attempt
        ((u.orchestrator.ask_changes (.refresh u.app) w).mono fun r t w₂ hl₂ ht => ?_))
      have hrefresh : u.Follows b (w.Shows w₂) DatabasePhase.primaryUnitUpgraded.callMoves (Event.changesOf t) :=
        follows_of_call (c := .refresh u.app) rfl rfl ht
      dsimp only
      cases r with
      | error f =>
        refine Act.ends_fail (.inl ⟨_, _, rfl, List.prefix_append _ _, ?_⟩)
        rwa [List.append_nil]
      | ok _ =>
        refine Act.ends_bind (Act.ends_attempt ((upgraded_quiet _ u.app unit w₂).mono fun r t' w₃ hl₃ ht' => ?_))
        -- The wait changes nothing, so the call is still all that was done.
        have hwaited : u.Follows b (w.Shows w₃) DatabasePhase.primaryUnitUpgraded.callMoves
            (Event.changesOf (t ++ t')) := by
          rw [Event.changesOf_append, Event.changesOf_eq_nil ht', List.append_nil]
          exact hrefresh.mono fun i hi => hi.later hl₃
        dsimp only
        cases r with
        | error f =>
          refine Act.ends_fail (.inl ⟨_, _, rfl, List.prefix_append _ _, ?_⟩)
          rwa [List.append_nil]
        | ok _ =>
          refine (phaseEnds_of_advance hreg hr (hl₂.trans hl₃) hwaited).mono fun r t'' w' _ hends => ?_
          rwa [← List.append_assoc]

theorem waitUnitsSettled_ends (h : p.place < DatabasePhase.unitsSettled.place) (w : World σ) :
    (u.waitUnitsSettled (u.stage p b)).Ends w (u.PhaseEnds b .unitsSettled w) := by
  unfold waitUnitsSettled
  rw [through_of_not_reached hr h]
  refine phaseEnds_of_publish (fun w => ?_) w
  refine Act.ends_bind (Act.ends_attempt ((settled_quiet _ u.app w).mono fun r t w₁ hl ht => ?_))
  have hquiet := Event.changesOf_eq_nil ht
  dsimp only
  cases r with
  | error f => exact Act.ends_fail (phaseEnds_fail (by rw [List.append_nil, hquiet]) w w₁)
  | ok _ => exact phaseEnds_of_advance hreg hr hl (by rw [hquiet]; exact .nil)

end Phases

/-! ## The start and the end -/

variable (u) in
/-- The application that an upgrade finds in a world when it asks for it. -/
def found (w : World σ) : Option Application :=
  match (u.orchestrator.ask (.application u.app) w).1 with
  | .ok app => app
  | .error _ => none

/-- The first phase notes the application that is found, or changes nothing. -/
theorem recordBaseline_ends (hreg : u.registry = .shared endpoint) (hr : DatabasePhase.ranks? = some u.ranks)
    (w : World σ) : (u.recordBaseline (u.stage .start b)).Ends w fun r t w' =>
      (Event.changesOf t = [] ∧ ∃ f, r = .error f) ∨
        ∃ app, u.found w = some app ∧ r = .ok (u.stage .baselineRecorded app.baseline) ∧
          u.Follows app.baseline (w.Shows w') [.note .baselineRecorded] (Event.changesOf t) := by
  unfold recordBaseline
  rw [through_of_not_reached hr (by decide)]
  refine Act.ends_bind ((u.orchestrator.ask_changes (.application u.app) w).result.mono fun r t w₁ hl h => ?_)
  obtain ⟨hfound, ht⟩ := h
  cases r with
  | error f => exact .inl ⟨ht, f, rfl⟩
  | ok found =>
    dsimp only
    cases found with
    | none => exact Act.ends_fail (.inl ⟨by rw [List.append_nil]; exact ht, _, rfl⟩)
    | some app =>
      refine (advance_ends (p := .start) (b := app.baseline) hreg hr w₁).mono fun r t' w' _ h => ?_
      have hall : Event.changesOf (t ++ t') = Event.changesOf t' := by
        rw [Event.changesOf_append, ht]
        rfl
      rw [hall]
      rcases h with ⟨hnone, f, rfl⟩ | ⟨rfl, hnote⟩
      · exact .inl ⟨hnone, f, rfl⟩
      · refine .inr ⟨app, by rw [DatabaseUpgrade.found, hfound], rfl, ?_⟩
        exact hnote.mono fun i hi => hi.earlier hl

variable (u) in
/-- How the rest of a run ends that is begun in `w` after the phase `p`: a first part of the moves left was made. -/
def RestEnds (b : Baseline) (p : DatabasePhase) (w : World σ) (r : Except Fault Stage) (t : List Event)
    (w' : World σ) : Prop :=
  ∃ ms, ms <+: p.moves ∧ u.Follows b (w.Shows w') ms (Event.changesOf t) ∧ ∀ s, r = .ok s → ∃ p', s = u.stage p' b

variable (u σ) in
/-- An action that takes up an upgrade after the phase `k` or any later one. -/
def Resumes (k : DatabasePhase) (x : Stage → Act σ Stage) : Prop :=
  ∀ p b w, k.place ≤ p.place → (x (u.stage p b)).Ends w (u.RestEnds b p w)

omit [Host σ] in
/-- One phase more in front of the rest of a run. -/
theorem Resumes.cons {j k : DatabasePhase} {x y : Stage → Act σ Stage} (hmoves : j.moves = k.ownMoves ++ k.moves)
    (hplace : k.place = j.place + 1)
    (hpass : ∀ p b, k.place ≤ p.place → x (u.stage p b) = pure (u.stage p b))
    (hphase : ∀ p b w, p.place < k.place → (x (u.stage p b)).Ends w (u.PhaseEnds b k w))
    (hrest : u.Resumes σ k y) : u.Resumes σ j fun s => x s >>= y := by
  intro p b w hp
  by_cases hk : k.place ≤ p.place
  · dsimp only
    rw [hpass p b hk]
    exact hrest p b w hk
  · obtain rfl : p = j := DatabasePhase.place_injective (by omega)
    refine Act.ends_bind ((hphase p b w (by omega)).mono fun r t w₁ hl h => ?_)
    rcases h with ⟨f, ms, rfl, hms, hf⟩ | ⟨rfl, hf⟩
    · refine ⟨ms, ?_, hf, fun s hs => nomatch hs⟩
      rw [hmoves]
      exact hms.trans (List.prefix_append _ _)
    · refine (hrest k b w₁ (Nat.le_refl _)).mono fun r t' w' hl' h => ?_
      obtain ⟨ms, hms, hf', hs⟩ := h
      refine ⟨k.ownMoves ++ ms, ?_, ?_, hs⟩
      · rw [hmoves]
        exact (List.prefix_append_right_inj _).mpr hms
      · rw [Event.changesOf_append]
        exact (hf.mono fun i hi => hi.later hl').append (hf'.mono fun i hi => hi.earlier hl)

variable (u) in
/-- The phases after the first. -/
def rest (s : Stage) : Act σ Stage := do
  let s ← u.scaleUp s
  let s ← u.precheck s
  let s ← u.upgradePrimaryUnit s
  let s ← u.resumeUpgrade s
  let s ← u.waitUnitsSettled s
  u.scaleBack s

section Rest

variable (hreg : u.registry = .shared endpoint) (hr : DatabasePhase.ranks? = some u.ranks)
include hreg hr

/-- Shrinking back is left out or stopped without a fault where it does not succeed. -/
theorem scaleBack_resumes : u.Resumes σ .unitsSettled u.scaleBack := by
  intro p b w hp
  unfold scaleBack
  by_cases hlast : DatabasePhase.scaledBack.place ≤ p.place
  · rw [through_of_reached hr hlast]
    exact Act.ends_pure ⟨[], List.nil_prefix, .nil, fun s hs => ⟨p, by cases hs; rfl⟩⟩
  · obtain rfl : p = .unitsSettled := DatabasePhase.place_injective (by
      have : DatabasePhase.scaledBack.place = DatabasePhase.unitsSettled.place + 1 := by decide
      omega)
    rw [through_of_not_reached hr (by decide)]
    have hscale : (u.stage .unitsSettled b).baseline = b := rfl
    rw [hscale]
    -- Whatever was done before without a change, the stage may stay as it is.
    have hstay : ∀ {t : List Event} (w w' : World σ), Event.changesOf t = [] →
        u.RestEnds b .unitsSettled w (.ok (u.stage .unitsSettled b)) t w' := fun w w' ht =>
      ⟨[], List.nil_prefix, by rw [ht]; exact .nil, fun s hs => ⟨.unitsSettled, by cases hs; rfl⟩⟩
    cases hb : b.scale with
    | none => exact Act.ends_bind (Act.ends_publish (Act.ends_pure (hstay w _ rfl)))
    | some before =>
      refine Act.ends_bind ((u.orchestrator.ask_changes (.application u.app) w).mono fun r t w₁ hl ht => ?_)
      have ht : Event.changesOf t = [] := ht
      cases r with
      | error f => exact ⟨[], List.nil_prefix, by rw [ht]; exact .nil, fun s hs => nomatch hs⟩
      | ok app =>
        dsimp only
        split
        · refine Act.ends_bind (Act.ends_publish (Act.ends_pure (hstay w _ ?_)))
          rw [Event.changesOf_append, ht]
          rfl
        · refine Act.ends_bind (Act.ends_publish (Act.ends_bind (Act.ends_attempt
            ((scaleAndWait_ends before _).mono fun r t' w₂ hl' ht' => ?_))))
          generalize hline : Event.status _ = line at hl'
          have hl₂ := hl.trans ((World.leads_note w₁ (e := line) (by rw [← hline]; rfl)).trans hl')
          have hall : Event.changesOf (t ++ ([line] ++ t')) = [.call (.scale u.app before)] := by
            rw [Event.changesOf_append, Event.changesOf_append, ht, ht', ← hline]
            rfl
          have hcall : u.Follows b (w.Shows w₂) DatabasePhase.scaledBack.callMoves
              (Event.changesOf (t ++ ([line] ++ t'))) := follows_of_call rfl ⟨before, hb, rfl⟩ hall
          dsimp only
          cases r with
          | error f =>
            refine Act.ends_pure ⟨DatabasePhase.scaledBack.callMoves, List.prefix_append _ _, ?_,
              fun s hs => ⟨.unitsSettled, by cases hs; rfl⟩⟩
            rwa [List.append_nil]
          | ok _ =>
            refine (phaseEnds_of_advance hreg hr hl₂ hcall).mono fun r t'' w' _ h => ?_
            rw [← List.append_assoc [line], ← List.append_assoc t]
            rcases h with ⟨f, ms, rfl, hms, hf⟩ | ⟨rfl, hf⟩
            · exact ⟨ms, hms, hf, fun s hs => nomatch hs⟩
            · exact ⟨_, List.prefix_rfl, hf, fun s hs => ⟨.scaledBack, by cases hs; rfl⟩⟩

/-- The phases after the first resume from any of them. -/
theorem rest_resumes : u.Resumes σ .baselineRecorded u.rest := by
  have hwait := Resumes.cons (j := .upgradeResumed) (x := u.waitUnitsSettled (σ := σ)) rfl rfl
    (fun _ _ h => through_of_reached hr h _) (fun _ _ w h => waitUnitsSettled_ends hreg hr h w)
    (scaleBack_resumes hreg hr)
  have hresume := Resumes.cons (j := .primaryUnitUpgraded) (x := u.resumeUpgrade (σ := σ)) rfl rfl
    (fun _ _ h => through_of_reached hr h _) (fun _ _ w h => resumeUpgrade_ends hreg hr h w) hwait
  have hprimary := Resumes.cons (j := .precheckDone) (x := u.upgradePrimaryUnit (σ := σ)) rfl rfl
    (fun _ _ h => through_of_reached hr h _) (fun _ _ w h => upgradePrimaryUnit_ends hreg hr h w) hresume
  have hcheck := Resumes.cons (j := .scaledUp) (x := u.precheck (σ := σ)) rfl rfl
    (fun _ _ h => through_of_reached hr h _) (fun _ _ w h => precheck_ends hreg hr h w) hprimary
  exact Resumes.cons (x := u.scaleUp (σ := σ)) rfl rfl
    (fun _ _ h => through_of_reached hr h _) (fun _ _ w h => scaleUp_ends hreg hr h w) hcheck

end Rest

variable (u) in
/-- Where the baseline of a run comes from that starts in `w` with a phase and a baseline: it is that baseline after
the first phase, and the application found when there was no phase yet. -/
def Origin (w : World σ) (p : DatabasePhase) (loaded b : Baseline) : Prop :=
  (p ≠ .start → b = loaded) ∧ (p = .start → ∃ app, u.found w = some app ∧ b = app.baseline)

/-- The phases one after another make a first part of the moves that are left. -/
theorem drive_ends (hreg : u.registry = .shared endpoint) (hr : DatabasePhase.ranks? = some u.ranks) (p : DatabasePhase)
    (loaded : Baseline) (w : World σ) : (u.drive (u.stage p loaded)).Ends w fun r t w' =>
      (Event.changesOf t = [] ∧ ∃ f, r = .error f) ∨
        ∃ b, u.Origin w p loaded b ∧ u.RestEnds b p w r t w' := by
  have hdrive : u.drive (u.stage p loaded) = u.recordBaseline (u.stage p loaded) >>= u.rest (σ := σ) := rfl
  rw [hdrive]
  by_cases hp : p = .start
  · subst hp
    refine Act.ends_bind ((recordBaseline_ends hreg hr w).mono fun r t w₁ hl h => ?_)
    rcases h with ⟨hnone, f, rfl⟩ | ⟨app, hfound, rfl, hnote⟩
    · exact .inl ⟨hnone, f, rfl⟩
    · refine (rest_resumes hreg hr .baselineRecorded app.baseline w₁ (Nat.le_refl _)).mono fun r t' w' hl' h => ?_
      obtain ⟨ms, hms, hf, hs⟩ := h
      refine .inr ⟨app.baseline, ⟨fun h => absurd rfl h, fun _ => ⟨app, hfound, rfl⟩⟩, .note .baselineRecorded :: ms,
        ?_, ?_, hs⟩
      · have hmoves : DatabasePhase.start.moves = .note .baselineRecorded :: DatabasePhase.baselineRecorded.moves := rfl
        rw [hmoves]
        exact List.cons_prefix_cons.mpr ⟨rfl, hms⟩
      · rw [Event.changesOf_append]
        exact (hnote.mono fun i hi => hi.later hl').append (hf.mono fun i hi => hi.earlier hl)
  · have hplace := DatabasePhase.baselineRecorded_le_place hp
    have hpass : (u.recordBaseline (u.stage p loaded) : Act σ Stage) = pure (u.stage p loaded) :=
      through_of_reached hr hplace _
    rw [hpass]
    refine (rest_resumes hreg hr p loaded w hplace).mono fun r t w' _ h => ?_
    exact .inr ⟨loaded, ⟨fun _ => rfl, fun h => absurd h hp⟩, h⟩

/-! ## A run -/

variable (u) in
/-- The phase and the baseline that a run finds noted in a world. -/
def noted (w : World σ) : DatabasePhase × Baseline :=
  Tracker.interpret u.ranks (w.store.get? u.settings.stateKey)

/-- The application that a run finds that finds no progress. -/
def firstFound (u : DatabaseUpgrade) (w : World σ) : Option Application := u.found (u.tracker.load w).2

variable (u) in
/-- What a run does that lasts: a first part of the moves that are left, and after them, if it completes, the removal
of the document. -/
structure RunEnds (w : World σ) (r : Except Fault Outcome) (t : List Event) (w' : World σ) (b : Baseline)
    (ms : List Move) (es : List Event) : Prop where
  prefix_moves : ms <+: (u.noted w).1.moves
  origin_later : (u.noted w).1 ≠ .start → b = (u.noted w).2
  origin_start : (u.noted w).1 = .start → ms ≠ [] → ∃ app, u.firstFound w = some app ∧ b = app.baseline
  follows : u.Follows b (w.Shows w') ms es
  ends : (∃ f, r = .error f) ∧ Event.changesOf t = es ∨
    (∃ o, r = .ok o ∧ o.kind = .completed) ∧
      (Event.changesOf t = es ++ [.access (.delete u.settings.stateKey) true] ∨
        Event.changesOf t = es ∧ (Host.Candid σ → w'.store.get? u.settings.stateKey = none))

/-- A run finds what is noted, or fails at once. -/
theorem load_ends (hreg : u.registry = .shared endpoint) (w : World σ) : u.tracker.load.Ends w fun r t _ =>
    Event.changesOf t = [] ∧ ((∃ tracker f, r = .ok (tracker, .error f) ∧
        (Host.refuse (.get u.settings.stateKey) w.host).1 = some f) ∨
      r = .ok ((u.stage (u.noted w).1 (u.noted w).2).tracker, .ok (u.noted w).2)) := by
  refine (Tracker.load_ends (t := u.tracker) hreg w).mono ?_
  rintro r t w' - (⟨rfl, rfl⟩ | ⟨f, rfl, rfl, hrefused⟩)
  · exact ⟨rfl, .inr rfl⟩
  · exact ⟨rfl, .inl ⟨_, f, rfl, hrefused⟩⟩

variable (u) in
/-- A run up to the end of its first phase. -/
def opening : Act σ Stage := do
  let (tracker, loaded) ← u.tracker.load
  let baseline ← Act.ofExcept loaded
  u.recordBaseline ⟨tracker, baseline⟩

variable (u) in
/-- A run goes on with the stage that its opening ends with. -/
theorem upgrade_eq_opening : (u.upgrade : Act σ Outcome) = u.opening >>= fun s => do
    let s ← u.rest s
    let _ ← s.tracker.clear
    return Outcome.completed.withMessage (u.app ++ " upgrade completed successfully") := by
  funext w
  unfold upgrade opening drive rest
  simp only [Act.bind_apply]
  rcases u.tracker.load w with ⟨_ | ⟨tracker, loaded⟩, w₁⟩
  · rfl
  · dsimp only
    rcases Act.ofExcept loaded w₁ with ⟨_ | baseline, w₂⟩
    · rfl
    · dsimp only
      rcases u.recordBaseline ⟨tracker, baseline⟩ w₂ with ⟨_ | s, w₃⟩
      · rfl
      · rfl

/-- The stage after the opening has a number of units, if the document has one that was found. -/
theorem opening_ends (hreg : u.registry = .shared endpoint) (hr : DatabasePhase.ranks? = some u.ranks) (w : World σ)
    (hscale : (u.noted w).1 ≠ .start → (u.noted w).2.scale.isSome) :
    u.opening.Ends w fun r _ _ => ∀ s, r = .ok s → s.baseline.scale.isSome := by
  unfold opening
  refine Act.ends_bind ((load_ends hreg w).mono fun r t w₁ _ h => ?_)
  obtain ⟨-, ⟨tracker, f, rfl, -⟩ | rfl⟩ := h
  · exact Act.ends_bind (Act.ends_ofExcept fun s hs => nomatch hs)
  refine Act.ends_bind (Act.ends_ofExcept ?_)
  show (u.recordBaseline (u.stage (u.noted w).1 (u.noted w).2)).Ends w₁ _
  by_cases hp : (u.noted w).1 = .start
  · rw [hp]
    refine (recordBaseline_ends (b := (u.noted w).2) hreg hr w₁).mono fun r t w' _ h => ?_
    rcases h with ⟨-, f, rfl⟩ | ⟨app, -, rfl, -⟩
    · exact fun s hs => nomatch hs
    · intro s hs
      cases hs
      rfl
  · have hpass : (u.recordBaseline (u.stage (u.noted w).1 (u.noted w).2) : Act σ Stage) =
        pure (u.stage (u.noted w).1 (u.noted w).2) := through_of_reached hr (DatabasePhase.baselineRecorded_le_place hp) _
    rw [hpass]
    refine Act.ends_pure fun s hs => ?_
    cases hs
    exact hscale hp

/-- At the end of its phases a run removes the document. -/
theorem clear_ends (hreg : u.registry = .shared endpoint) (p : DatabasePhase) (w : World σ) :
    (u.stage p b).tracker.clear.Ends w fun r t w' =>
      ((∃ f, r = .error f ∧ (Host.refuse (.delete u.settings.stateKey) w.host).1 = some f) ∧ Event.changesOf t = []) ∨
        (∃ tracker, r = .ok tracker) ∧ (Event.changesOf t = [.access (.delete u.settings.stateKey) true] ∨
          Event.changesOf t = [] ∧ (Host.Candid σ → w'.store.get? u.settings.stateKey = none)) := by
  refine (Tracker.clear_ends (t := (u.stage p b).tracker) hreg w).mono ?_
  rintro r t w' hl (⟨rfl, rfl | ⟨rfl, hmissing⟩⟩ | ⟨f, rfl, rfl, hrefused⟩)
  · exact .inr ⟨⟨_, rfl⟩, .inl rfl⟩
  · refine .inr ⟨⟨_, rfl⟩, .inr ⟨rfl, fun candid => ?_⟩⟩
    rw [hl.store]
    exact hmissing candid
  · exact .inl ⟨⟨f, rfl, hrefused⟩, rfl⟩

theorem upgrade_ends (hreg : u.registry = .shared endpoint) (hr : DatabasePhase.ranks? = some u.ranks) (w : World σ) :
    u.upgrade.Ends w fun r t w' => ∃ b ms es, u.RunEnds w r t w' b ms es := by
  -- A run that fails before its first move.
  have hquiet : ∀ {f : Fault} {t : List Event} {w' : World σ}, Event.changesOf t = [] →
      u.RunEnds w (.error f) t w' (u.noted w).2 [] [] := fun ht =>
    ⟨List.nil_prefix, fun _ => rfl, fun _ h => absurd rfl h, .nil, .inl ⟨⟨_, rfl⟩, ht⟩⟩
  unfold upgrade
  refine Act.ends_bind ((load_ends hreg w).result.mono fun r t w₁ hl₁ h => ?_)
  obtain ⟨hload, ht, ⟨tracker, f, rfl, -⟩ | rfl⟩ := h
  · refine Act.ends_bind (Act.ends_ofExcept ?_)
    rw [List.append_nil]
    exact ⟨_, _, _, hquiet ht⟩
  have hw₁ : (u.tracker.load w).2 = w₁ := by rw [hload]
  refine Act.ends_bind (Act.ends_ofExcept ?_)
  refine Act.ends_bind ((drive_ends hreg hr (u.noted w).1 (u.noted w).2 w₁).mono fun r t' w₂ hl₂ h => ?_)
  have hchanges : ∀ t', Event.changesOf (t ++ ([] ++ t')) = Event.changesOf t' := by
    intro t'
    rw [List.nil_append, Event.changesOf_append, ht, List.nil_append]
  rcases h with ⟨ht', f, rfl⟩ | ⟨b, horigin, ms, hms, hf, hs⟩
  · exact ⟨_, _, _, hquiet (by rw [hchanges, ht'])⟩
  have hstart : (u.noted w).1 = .start → ms ≠ [] → ∃ app, u.firstFound w = some app ∧ b = app.baseline := by
    intro hp _
    rw [firstFound, hw₁]
    exact horigin.2 hp
  have hdates : ∀ i, w₁.Shows w₂ i → w.Shows w₂ i := fun i hi => hi.earlier hl₁
  cases r with
  | error f =>
    exact ⟨b, ms, _, hms, horigin.1, hstart, hf.mono hdates, .inl ⟨⟨f, rfl⟩, hchanges t'⟩⟩
  | ok s =>
    obtain ⟨p', rfl⟩ := hs s rfl
    refine Act.ends_bind ((clear_ends hreg p' w₂).mono fun r t'' w₃ hl₃ h => ?_)
    have hmoves : u.Follows b (w.Shows w₃) ms (Event.changesOf t') := hf.mono fun i hi => (hdates i hi).later hl₃
    rcases h with ⟨⟨f, rfl, -⟩, ht''⟩ | ⟨⟨tracker, rfl⟩, hremoved⟩
    · refine ⟨b, ms, _, hms, horigin.1, hstart, hmoves, .inl ⟨⟨f, rfl⟩, ?_⟩⟩
      rw [hchanges, Event.changesOf_append, ht'', List.append_nil]
    · refine Act.ends_pure ⟨b, ms, _, hms, horigin.1, hstart, hmoves, .inr ⟨⟨_, rfl, rfl⟩, ?_⟩⟩
      rw [List.append_nil, hchanges, Event.changesOf_append]
      rcases hremoved with ht'' | ⟨ht'', hmissing⟩
      · exact .inl (by rw [ht''])
      · exact .inr ⟨by rw [ht'', List.append_nil], hmissing⟩

end DatabaseUpgrade

end Rollout
