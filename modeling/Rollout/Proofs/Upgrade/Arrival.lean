import Rollout.Proofs.Precedence
import Rollout.Proofs.Upgrade.Record
import Rollout.Proofs.Upgrade.Resume

/-!
# Rollout.Proofs.Upgrade.Arrival — how far a run comes

A run comes to its first phase when what is noted was loaded, and to each later one when the phase before has ended
well.  Whatever it does it does in a phase that it comes to, and where it fails, it fails in one.  When it comes to a
phase, the document tells of the stage that it comes with.

* `DatabaseUpgrade.phase`: what is done in a phase; `DatabaseUpgrade.Comes`: a run comes to a phase.
* `DatabaseUpgrade.phase_leaves`: the moves of a phase, and the stage with which the run goes on.
* `DatabaseUpgrade.Arrival`, `Comes.arrival`: what holds when a run comes to a phase.
* `heeds_upgrade`, `Comes.exists_failing`: what is done by a run, and how it fails, from that of its phases.
-/

namespace Rollout

namespace DatabaseUpgrade

variable {σ : Type} [Host σ] (u : DatabaseUpgrade)

/-- What is done in a phase; there is nothing to do at the start. -/
def phase : DatabasePhase → Stage → Act σ Stage
  | .start => fun s => return s
  | .baselineRecorded => u.recordBaseline
  | .scaledUp => u.scaleUp
  | .precheckDone => u.precheck
  | .primaryUnitUpgraded => u.upgradePrimaryUnit
  | .upgradeResumed => u.resumeUpgrade
  | .unitsSettled => u.waitUnitsSettled
  | .scaledBack => u.scaleBack

/-- A run that starts in `w` comes to a phase with a stage, in a world: to the first phase when what is noted was
loaded, and to any other when the phase before it has ended well. -/
inductive Comes (w : World σ) : DatabasePhase → Stage → World σ → Prop
  | load {tracker : Tracker DatabasePhase} {baseline : Baseline} {w₁ : World σ}
    (hload : u.tracker.load w = (.ok (tracker, .ok baseline), w₁)) : Comes w .baselineRecorded ⟨tracker, baseline⟩ w₁
  | next {k k' : DatabasePhase} {s s' : Stage} {w₁ w₂ : World σ} (hcomes : Comes w k s w₁)
    (hphase : u.phase k s w₁ = (.ok s', w₂)) (hplace : k'.place = k.place + 1) : Comes w k' s' w₂

variable {u} {endpoint : Option String} {p k k' : DatabasePhase} {b : Baseline} {s : Stage} {w w₁ w' : World σ}

/-! ## What a phase leaves -/

/-- How a phase ends to which a run comes in `w` with the stage of `p` and `b`.  It has made a first part of its moves;
if it ends well, it was passed over, or has made all of them.  Only the last phase may end well in between. -/
def Leaves (u : DatabaseUpgrade) (b : Baseline) (p k : DatabasePhase) (w : World σ) (r : Except Fault Stage)
    (t : List Event) (w' : World σ) : Prop :=
  ∃ b' ms, (b' = b ∨ k = .baselineRecorded ∧ ∃ app, u.found w = some app ∧ b' = app.baseline) ∧
    ms <+: k.ownMoves ∧ u.Follows b' (w.Shows w') ms (Event.changesOf t) ∧
    ∀ s, r = .ok s → (k.place ≤ p.place ∧ s = u.stage p b ∧ ms = []) ∨ (s = u.stage k b' ∧ ms = k.ownMoves) ∨
      (k = .scaledBack ∧ ∃ p', s = u.stage p' b)

theorem PhaseEnds.leaves {r : Except Fault Stage} {t : List Event} (h : u.PhaseEnds b k w r t w') :
    u.Leaves b p k w r t w' := by
  rcases h with ⟨f, ms, rfl, hms, hf⟩ | ⟨rfl, hf⟩
  · exact ⟨b, ms, .inl rfl, hms, hf, fun s hs => nomatch hs⟩
  · refine ⟨b, k.ownMoves, .inl rfl, List.prefix_rfl, hf, fun s hs => ?_⟩
    cases hs
    exact .inr (.inl ⟨rfl, rfl⟩)

section Phases

variable (hreg : u.registry = .shared endpoint) (hr : DatabasePhase.ranks? = some u.ranks)
include hr

/-- A phase that was reached before is passed over. -/
theorem phase_of_reached (h : k.place ≤ p.place) : u.phase k (u.stage p b) = (pure (u.stage p b) : Act σ Stage) := by
  cases k with
  | start => rfl
  | _ => exact through_of_reached hr h _

include hreg

theorem phase_leaves (h : k.place ≤ p.place ∨ p.place + 1 = k.place) (w : World σ) :
    (u.phase k (u.stage p b)).Ends w (u.Leaves b p k w) := by
  by_cases hle : k.place ≤ p.place
  · rw [phase_of_reached hr hle]
    refine Act.ends_pure ⟨b, [], .inl rfl, List.nil_prefix, .nil, fun s hs => ?_⟩
    cases hs
    exact .inl ⟨hle, rfl, rfl⟩
  have hnext : p.place + 1 = k.place := h.resolve_left hle
  have hlt : p.place < k.place := by omega
  cases k with
  | start => exact absurd (Nat.zero_le _) hle
  | baselineRecorded =>
    obtain rfl : p = .start := DatabasePhase.place_injective (Nat.succ.inj hnext)
    refine (recordBaseline_ends hreg hr w).mono fun r t w' _ h => ?_
    rcases h with ⟨hnone, f, rfl⟩ | ⟨app, hfound, rfl, hf⟩
    · exact ⟨b, [], .inl rfl, List.nil_prefix, by rw [hnone]; exact .nil, fun s hs => nomatch hs⟩
    · refine ⟨app.baseline, [.note .baselineRecorded], .inr ⟨rfl, app, hfound, rfl⟩, List.prefix_rfl, hf, fun s hs => ?_⟩
      cases hs
      exact .inr (.inl ⟨rfl, rfl⟩)
  | scaledUp => exact (scaleUp_ends hreg hr hlt w).mono fun _ _ _ _ h => h.leaves
  | precheckDone => exact (precheck_ends hreg hr hlt w).mono fun _ _ _ _ h => h.leaves
  | primaryUnitUpgraded => exact (upgradePrimaryUnit_ends hreg hr hlt w).mono fun _ _ _ _ h => h.leaves
  | upgradeResumed => exact (resumeUpgrade_ends hreg hr hlt w).mono fun _ _ _ _ h => h.leaves
  | unitsSettled => exact (waitUnitsSettled_ends hreg hr hlt w).mono fun _ _ _ _ h => h.leaves
  | scaledBack =>
    obtain rfl : p = .unitsSettled := DatabasePhase.place_injective (Nat.succ.inj hnext)
    refine (scaleBack_resumes hreg hr _ b w (Nat.le_refl _)).mono fun r t w' _ h => ?_
    obtain ⟨ms, hms, hf, hs⟩ := h
    exact ⟨b, ms, .inl rfl, hms, hf, fun s hr => .inr (.inr ⟨rfl, hs s hr⟩)⟩

end Phases

/-! ## Arrivals -/

/-- The numbers of the application that a run finds at its start are of the width in which they are kept. -/
def FitsAtFirst (u : DatabaseUpgrade) (w : World σ) : Prop := ∀ app, u.firstFound w = some app → app.baseline.Fits

/-- What holds when a run that started in `w` comes to `k` with a stage in `w₁`, having done `t`: the stage is that of a
phase that is as far as `k` or the one before it, and the calls made are those of earlier phases.  As long as the clock
stays in the calendar, the document tells of the same stage. -/
structure Arrival (u : DatabaseUpgrade) (w : World σ) (k : DatabasePhase) (s : Stage) (w₁ : World σ) (t : List Event)
    (p : DatabasePhase) (b : Baseline) : Prop where
  leads : w.Leads t w₁
  stage : s = u.stage p b
  near : k.place ≤ p.place ∨ p.place + 1 = k.place
  calls : ∀ c, .call c ∈ t → c.changes = true → ∃ j, j.place < k.place ∧ u.Makes b j c
  fits : u.FitsAtFirst w → b.Fits
  noted : u.FitsAtFirst w → (∀ i, w.Shows w₁ i → i.InCalendar) → u.noted w₁ = (p, b)

theorem Comes.ne_start (h : u.Comes w k s w₁) : k ≠ .start := by
  cases h with
  | load _ => exact DatabasePhase.noConfusion
  | next _ _ hplace =>
    rintro rfl
    cases hplace

/-- To the first phase a run comes with what it has loaded. -/
theorem Comes.eq_loaded (h : u.Comes w .baselineRecorded s w₁) : w₁ = (u.tracker.load w).2 := by
  cases h with
  | load hload => rw [hload]
  | next hcomes _ hplace =>
    have hstart := DatabasePhase.place_eq_zero.mp (Nat.succ.inj hplace).symm
    exact absurd hstart hcomes.ne_start

omit [Host σ] in
/-- After all moves of a phase the document tells of that phase. -/
theorem Follows.noted_eq {D : Instant → Prop} {t : List Event} (h : u.Follows b D k.ownMoves (Event.changesOf t))
    (hr : DatabasePhase.ranks? = some u.ranks) (hl : w.Leads t w₁) (hD : ∀ i, D i → i.InCalendar) (hb : b.Fits) :
    u.noted w₁ = (k, b) := by
  have hkept : Event.access (.delete u.settings.stateKey) true ∉ t := fun hmem =>
    h.not_mem_delete u.settings.stateKey true (List.mem_filter.mpr ⟨hmem, rfl⟩)
  have hnotes := h.notes
  have hnoted : k.ownMoves.filterMap Move.noted? = [k] := by
    simpa using DatabasePhase.noted_flatMap [k]
  rw [Event.filterMap_changesOf fun _ he => Event.stored?_eq_none _ he, hnoted] at hnotes
  obtain ⟨v, vs, ⟨date, who, hdate, rfl⟩, hnil, hstored⟩ := List.forall₂_cons_left_iff.mp hnotes
  obtain rfl := List.forall₂_nil_left_iff.mp hnil
  have hlast : w₁.store.get? u.settings.stateKey = some (record b k date who) := by
    rw [hl.store, Store.get?_replay hkept, hstored]
    rfl
  rw [noted, hlast]
  exact interpret_record hr hb (hD date hdate) k who

omit [Host σ] in
/-- The call of a phase is its own, and the first thing that it does that lasts. -/
theorem Follows.call_of_own {D : Instant → Prop} {ms : List Move} {t₁ t₂ : List Event} {c : Call}
    (h : u.Follows b D ms (Event.changesOf (t₁ ++ .call c :: t₂))) (hms : ms <+: k.ownMoves) (hc : c.changes = true) :
    u.Makes b k c ∧ Event.changesOf t₁ = [] := by
  have hsplit : Event.changesOf (t₁ ++ .call c :: t₂) = Event.changesOf t₁ ++ .call c :: Event.changesOf t₂ := by
    rw [Event.changesOf_append]
    exact congrArg _ (List.filter_cons_of_pos hc)
  rw [hsplit] at h
  obtain ⟨ms₁, j, ms₂, rfl, hbefore, hmakes⟩ := h.split_call
  have hprefix : ms₁ ++ [.call j] <+: [k].flatMap DatabasePhase.ownMoves := by
    rw [List.flatMap_singleton]
    exact List.IsPrefix.trans ⟨ms₂, by simp⟩ hms
  obtain ⟨before, after, hphases, rfl, -⟩ := DatabasePhase.split_of_call_prefix hprefix
  cases before with
  | nil =>
    obtain ⟨rfl, -⟩ := List.cons.inj hphases
    exact ⟨hmakes, Follows.nil_iff.mp hbefore⟩
  | cons _ before => simp at hphases

omit [Host σ] in
theorem noted_eq_of_quiet {t : List Event} (hl : w.Leads t w₁) (ht : Event.changesOf t = []) :
    u.noted w₁ = u.noted w := by
  unfold noted
  rw [hl.store, ← Store.replay_changesOf, ht]
  rfl

/-- Over a phase that was reached before a run comes to the next with nothing done. -/
theorem Comes.pass (hr : DatabasePhase.ranks? = some u.ranks) (h : u.Comes w k (u.stage p b) w₁)
    (hreached : k.place ≤ p.place) (hplace : k'.place = k.place + 1) : u.Comes w k' (u.stage p b) w₁ := by
  refine h.next ?_ hplace
  rw [phase_of_reached hr hreached]
  rfl

section Arrivals

variable (hreg : u.registry = .shared endpoint)
include hreg

/-- A run comes to the first phase with the stage that is noted. -/
theorem arrival_of_load {tracker : Tracker DatabasePhase} (hload : u.tracker.load w = (.ok (tracker, .ok b), w₁)) :
    ∃ t, u.Arrival w .baselineRecorded ⟨tracker, b⟩ w₁ t (u.noted w).1 (u.noted w).2 := by
  obtain ⟨t, hl, ht, hresult⟩ := load_ends hreg w
  rw [hload] at hl hresult
  refine ⟨t, hl, ?stage, ?near, ?calls, ?fits, ?noted⟩
  case stage =>
    obtain ⟨tracker', f, hfailed, -⟩ | hstage := hresult
    · cases hfailed
    · cases hstage
      rfl
  case near =>
    by_cases hp : (u.noted w).1 = .start
    · exact .inr (by rw [hp]; rfl)
    · exact .inl (DatabasePhase.baselineRecorded_le_place hp)
  case calls =>
    intro c hc hchanges
    cases hchanges.symm.trans (Event.not_changes_of_changesOf ht hc)
  case fits => exact fun _ => Tracker.interpret_fits _ _
  case noted => exact fun _ _ => noted_eq_of_quiet hl ht

variable (hr : DatabasePhase.ranks? = some u.ranks)
include hr

/-- From one phase a run comes to the next. -/
theorem Arrival.next {s' : Stage} {w₂ : World σ} {t : List Event} (h : u.Arrival w k s w₁ t p b)
    (hcomes : u.Comes w k s w₁) (hphase : u.phase k s w₁ = (.ok s', w₂)) (hplace : k'.place = k.place + 1) :
    ∃ t' p' b', u.Arrival w k' s' w₂ t' p' b' := by
  obtain rfl := h.stage
  obtain ⟨t', hl', b', ms, horigin, hms, hf, hs⟩ := phase_leaves hreg hr h.near w₁
  rw [hphase] at hl' hf hs
  have hdates {i : Instant} : w.Shows w₁ i → w.Shows w₂ i := fun hi => hi.later hl'
  have hbefore {c : Call} (hc : .call c ∈ t) (hchanges : c.changes = true) :
      ∃ j, j.place < k'.place ∧ u.Makes b j c := by
    obtain ⟨j, hj, hmakes⟩ := h.calls c hc hchanges
    exact ⟨j, by omega, hmakes⟩
  rcases hs s' rfl with ⟨hle, rfl, rfl⟩ | ⟨rfl, rfl⟩ | ⟨rfl, -⟩
  · -- The phase was passed over.
    have ht' : Event.changesOf t' = [] := Follows.nil_iff.mp hf
    refine ⟨t ++ t', p, b, h.leads.trans hl', rfl, by omega, fun c hc hchanges => ?_, h.fits, fun hfits hcalendar => ?_⟩
    · rcases List.mem_append.mp hc with hc | hc
      · exact hbefore hc hchanges
      · cases hchanges.symm.trans (Event.not_changes_of_changesOf ht' hc)
    · rw [noted_eq_of_quiet hl' ht']
      exact h.noted hfits fun i hi => hcalendar i (hdates hi)
  · -- All moves of the phase were made.
    have hfits (hfirst : u.FitsAtFirst w) : b'.Fits := by
      rcases horigin with rfl | ⟨rfl, app, hfound, rfl⟩
      · exact h.fits hfirst
      · refine hfirst app ?_
        rw [firstFound, ← hcomes.eq_loaded]
        exact hfound
    refine ⟨t ++ t', k, b', h.leads.trans hl', rfl, .inr hplace.symm, fun c hc hchanges => ?_, hfits,
      fun hfirst hcalendar => ?_⟩
    · rcases List.mem_append.mp hc with hc | hc
      · rcases horigin with rfl | ⟨rfl, -⟩
        · exact hbefore hc hchanges
        · -- Nothing is called before the start is recorded.
          obtain ⟨j, hj, hmakes⟩ := h.calls c hc hchanges
          have hstart : j = .start := DatabasePhase.place_eq_zero.mp (Nat.lt_one_iff.mp hj)
          subst hstart
          exact hmakes.elim
      · obtain ⟨t₁, t₂, rfl⟩ := List.append_of_mem hc
        exact ⟨k, by omega, (hf.call_of_own List.prefix_rfl hchanges).1⟩
    · exact hf.noted_eq hr hl' (fun i hi => hcalendar i (hi.earlier h.leads)) (hfits hfirst)
  · have hlast : k'.place ≤ DatabasePhase.scaledBack.place := by cases k' <;> decide
    omega

/-- Where a run comes to a phase, it has an arrival there. -/
theorem Comes.arrival (h : u.Comes w k s w₁) : ∃ t p b, u.Arrival w k s w₁ t p b := by
  induction h with
  | load hload =>
    obtain ⟨t, harrival⟩ := arrival_of_load hreg hload
    exact ⟨t, _, _, harrival⟩
  | next hcomes hphase hplace ih =>
    obtain ⟨t, p, b, harrival⟩ := ih
    exact harrival.next hreg hr hcomes hphase hplace

/-- A phase that ends well ends with the stage of a phase. -/
theorem Comes.stage_next (h : u.Comes w k s w₁) {s' : Stage} {w₂ : World σ} (hphase : u.phase k s w₁ = (.ok s', w₂)) :
    ∃ p b, s' = u.stage p b := by
  obtain ⟨t, p, b, harrival⟩ := h.arrival hreg hr
  obtain rfl := harrival.stage
  obtain ⟨t', -, b', ms, -, -, -, hs⟩ := phase_leaves hreg hr harrival.near w₁
  rw [hphase] at hs
  rcases hs s' rfl with ⟨-, rfl, -⟩ | ⟨rfl, -⟩ | ⟨-, p', rfl⟩
  · exact ⟨p, b, rfl⟩
  · exact ⟨k, b', rfl⟩
  · exact ⟨p', b, rfl⟩

end Arrivals

/-! ## A run from its phases -/

variable (u) in
/-- The end of a run: the document is removed. -/
def close (s : Stage) : Act σ Outcome := do
  let _ ← s.tracker.clear
  return Outcome.completed.withMessage (u.app ++ " upgrade completed successfully")

variable (u) in
/-- A run from a phase on. -/
def onward (k : DatabasePhase) (s : Stage) : Act σ Outcome :=
  (k :: k.ahead).foldlM (fun s k => u.phase k s) s >>= u.close

theorem onward_last (s : Stage) : (u.onward .scaledBack s : Act σ Outcome) = u.phase .scaledBack s >>= u.close :=
  congrArg (· >>= u.close) (bind_pure _)

theorem onward_next (h : k'.place = k.place + 1) (s : Stage) :
    (u.onward k s : Act σ Outcome) = u.phase k s >>= u.onward k' := by
  unfold onward
  rw [DatabasePhase.ahead_eq h, List.foldlM_cons, bind_assoc]

theorem onward_of_error {f : Fault} (h : u.phase k s w = (.error f, w')) : u.onward k s w = (.error f, w') := by
  unfold onward
  rw [List.foldlM_cons, bind_assoc]
  exact Act.bind_of_error h _

/-- After what is noted was loaded, a run starts with its first phase. -/
theorem upgrade_eq_onward : (u.upgrade : Act σ Outcome) = u.tracker.load >>= fun loaded =>
    Act.ofExcept loaded.2 >>= fun baseline => u.onward .baselineRecorded ⟨loaded.1, baseline⟩ := by
  have hahead : DatabasePhase.baselineRecorded.ahead =
      [.scaledUp, .precheckDone, .primaryUnitUpgraded, .upgradeResumed, .unitsSettled, .scaledBack] := rfl
  unfold upgrade onward drive
  simp only [hahead, List.foldlM_cons, List.foldlM_nil, bind_pure, bind_assoc]
  rfl

/-- From a phase that it comes to a run goes on as it does from there. -/
theorem Comes.upgrade_eq (h : u.Comes w k s w₁) : u.upgrade w = u.onward k s w₁ := by
  induction h with
  | load hload => rw [upgrade_eq_onward, Act.bind_of_ok hload, Act.bind_ofExcept_ok]
  | next _ hphase hplace ih => rw [ih, onward_next hplace, Act.bind_of_ok hphase]

/-- Where a run fails that has come to a phase, it fails in a phase that it comes to, or at its end. -/
theorem Comes.exists_failing (h : u.Comes w k s w₁) {f : Fault} (hfails : u.upgrade w = (.error f, w')) :
    ∃ k s w₂, u.Comes w k s w₂ ∧ (u.phase k s w₂ = (.error f, w') ∨
      k = .scaledBack ∧ ∃ s' w₃, u.phase k s w₂ = (.ok s', w₃) ∧ u.close s' w₃ = (.error f, w')) := by
  rw [h.upgrade_eq] at hfails
  revert s w₁
  induction k using DatabasePhase.backward with
  | last =>
    intro s w₁ h hfails
    rw [onward_last, Act.bind_apply] at hfails
    cases hrun : u.phase .scaledBack s w₁ with
    | mk r w₂ =>
      rw [hrun] at hfails
      cases r with
      | error f' =>
        cases hfails
        exact ⟨_, _, _, h, .inl hrun⟩
      | ok s' => exact ⟨_, _, _, h, .inr ⟨rfl, s', w₂, hrun, hfails⟩⟩
  | step k k' hplace ih =>
    intro s w₁ h hfails
    rw [onward_next hplace, Act.bind_apply] at hfails
    cases hrun : u.phase k s w₁ with
    | mk r w₂ =>
      rw [hrun] at hfails
      cases r with
      | error f' =>
        cases hfails
        exact ⟨_, _, _, h, .inl hrun⟩
      | ok s' => exact ih (h.next hrun hplace) hfails

section Runs

variable (hreg : u.registry = .shared endpoint) (hr : DatabasePhase.ranks? = some u.ranks)
  {G : List Event → Event → Prop}
include hreg

/-- At its end a run changes nothing, but that it removes the document. -/
theorem heeds_close (hrest : ∀ t e, (e.changes = true → e = .access (.delete u.settings.stateKey) true) → G t e)
    (p : DatabasePhase) (b : Baseline) (w : World σ) : (u.close (u.stage p b)).Heeds w G := by
  refine Act.Heeds.bind (Act.heeds_of_mem (clear_ends hreg p w) ?_) fun _ _ _ _ _ => Act.heeds_pure _
  refine fun r t w' h _ e he => hrest _ e fun hchanges => ?_
  rcases h with ⟨-, ht⟩ | ⟨-, ht | ⟨ht, -⟩⟩
  · cases hchanges.symm.trans (Event.not_changes_of_changesOf ht he)
  · have hmem : e ∈ Event.changesOf t := List.mem_filter.mpr ⟨he, hchanges⟩
    rw [ht] at hmem
    exact List.mem_singleton.mp hmem
  · cases hchanges.symm.trans (Event.not_changes_of_changesOf ht he)

include hr

/-- What a run does from a phase on it does in phases that it comes to, or at its end. -/
theorem Comes.heeds_onward
    (hrest : ∀ t e, (e.changes = true → e = .access (.delete u.settings.stateKey) true) → G t e)
    (hphase : ∀ k s w₁ t, u.Comes w k s w₁ → w.Leads t w₁ → (u.phase k s).Heeds w₁ fun t' e => G (t ++ t') e)
    (h : u.Comes w k s w₁) {t : List Event} (hl : w.Leads t w₁) :
    (u.onward k s).Heeds w₁ fun t' e => G (t ++ t') e := by
  induction k using DatabasePhase.backward generalizing s w₁ t with
  | last =>
    rw [onward_last]
    refine (hphase _ s w₁ t h hl).bind fun s' w₂ t' hrun hl' => ?_
    obtain ⟨p, b, rfl⟩ := h.stage_next hreg hr hrun
    exact heeds_close hreg (fun _ e he => hrest _ e he) p b w₂
  | step k k' hplace ih =>
    rw [onward_next hplace]
    refine (hphase k s w₁ t h hl).bind fun s' w₂ t' hrun hl' => ?_
    refine (ih (h.next hrun hplace) (hl.trans hl')).mono fun t'' e he => ?_
    rwa [← List.append_assoc]

/-- Outside its phases a run changes nothing, but that it removes the document. -/
theorem heeds_upgrade
    (hrest : ∀ t e, (e.changes = true → e = .access (.delete u.settings.stateKey) true) → G t e)
    (hphase : ∀ k s w₁ t, u.Comes w k s w₁ → w.Leads t w₁ → (u.phase k s).Heeds w₁ fun t' e => G (t ++ t') e) :
    u.upgrade.Heeds w G := by
  rw [upgrade_eq_onward]
  refine Act.Heeds.bind (Act.heeds_of_mem (load_ends hreg w) ?_) fun loaded w₁ t hrun hl => ?_
  · refine fun r t w' h _ e he => hrest _ e fun hchanges => ?_
    cases hchanges.symm.trans (Event.not_changes_of_changesOf h.1 he)
  · obtain ⟨tracker, baseline⟩ := loaded
    refine (Act.heeds_ofExcept baseline).bind fun b w₂ t' hbaseline hl' => ?_
    obtain ⟨rfl, rfl⟩ := Prod.mk.inj hbaseline
    obtain rfl : t' = [] := hl'.unique (World.Leads.refl _)
    exact Comes.heeds_onward hreg hr hrest hphase (.load hrun) hl

/-- Where a run comes to a phase, its end is still ahead. -/
theorem Comes.leads_after (h : u.Comes w k s w₁) : ∃ t, w₁.Leads t (u.upgrade w).2 := by
  obtain ⟨t, p, b, harrival⟩ := h.arrival hreg hr
  have honward : (u.onward k s).Heeds w₁ fun _ _ => True := by
    refine h.heeds_onward hreg hr (G := fun _ _ => True) (fun _ _ _ => trivial) (fun k s w₁ t hcomes _ => ?_)
      harrival.leads
    obtain ⟨_, p, b, hthere⟩ := hcomes.arrival hreg hr
    rw [hthere.stage]
    exact (phase_leaves hreg hr hthere.near w₁).mono fun _ _ _ _ _ _ _ _ _ => trivial
  obtain ⟨t', hl', -⟩ := honward
  exact ⟨t', h.upgrade_eq ▸ hl'⟩

end Runs

end DatabaseUpgrade

end Rollout
