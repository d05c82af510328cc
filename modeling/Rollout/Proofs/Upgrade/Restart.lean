import Rollout.Proofs.Upgrade.Eligible
import Rollout.Proofs.Upgrade.Uses

/-!
# Rollout.Proofs.Upgrade.Restart — an upgrade in progress, and what is noted of it

When an upgrade is in progress of which nothing is noted, it was begun by other means, and the step leaves it alone.
But the check only asks whether a document stands under the key, while a run goes on only from what the document tells.
A document that tells of no phase therefore lets the step pass, and the upgrade in progress is begun anew.

* `DatabaseUpgrade.Observes`: the check learns what upgrades are in progress.
* `DatabaseUpgrade.GoesOnFrom`, `DatabaseUpgrade.StartsOver`: what a run leaves behind.
* `DatabaseUpgrade.visit_in_progress`: which of them it is.
* `Deployment.begun_anew`: an upgrade in progress that is begun anew.
-/

namespace Rollout

variable {σ : Type} [Host σ]

/-- What changes nothing does not count for what is noted or called. -/
theorem Event.filterMap_quiet_append {β : Type} {f : Event → Option β} {t₀ : List Event}
    (hquiet : ∀ e ∈ t₀, e.changes = false) (hf : ∀ e, e.changes = false → f e = none) (t : List Event) :
    (t₀ ++ t).filterMap f = t.filterMap f := by
  rw [List.filterMap_append, List.filterMap_eq_nil_iff.mpr fun e he => hf e (hquiet e he), List.nil_append]

namespace DatabaseUpgrade

variable (u : DatabaseUpgrade)

/-- The check that starts in `w` learns from the leader what upgrades are in progress, and is in `w'` then. -/
def Observes (w : World σ) (stack : List Json) (w' : World σ) : Prop :=
  ∃ app latest leader w₁, u.Considers w app latest leader w₁ ∧
    u.orchestrator.ask (.upgradeStack leader) w₁ = (.ok stack, w')

/-- What is decided when an upgrade is in progress that was begun by other means. -/
def outOfBand : Outcome :=
  skip ("Detected " ++ u.settings.component ++ " upgrade in progress with no persisted state. It was likely " ++
    "started outside this tool; complete or roll back the in-progress upgrade manually")

/-- What is done goes on from a phase and a baseline: all that is noted are later phases with that baseline, and all that
is called for are later phases. -/
structure GoesOnFrom (p : DatabasePhase) (b : Baseline) (t : List Event) : Prop where
  notes : ∀ v ∈ t.filterMap (Event.stored? u.settings.stateKey), ∃ k date who, p.place < k.place ∧ v = record b k date who
  calls : ∀ c ∈ t.filterMap Event.changingCall?, ∃ k, p.place < k.place ∧ u.Makes b k c

/-- What is done starts over: before anything else the application is noted as it is found, and then all goes by that. -/
def StartsOver (found : Option Application) (t : List Event) : Prop :=
  (t.filterMap (Event.stored? u.settings.stateKey) = [] ∧ t.filterMap Event.changingCall? = []) ∨
    ∃ app date who rest, found = some app ∧ u.GoesOnFrom .start app.baseline t ∧
      Event.changesOf t = .access (.put u.settings.stateKey (record app.baseline .baselineRecorded date who)) true :: rest

variable {u} {w w' : World σ} {stack : List Json} {endpoint : Option String}

/-! ## The check -/

variable (u) in
/-- The check of an upgrade in progress, once it knows of it. -/
def eligibleAmid : Act σ Outcome := do
  if ← u.tracker.exists? then return .completed else return u.outOfBand

/-- Where an upgrade is in progress the check looks whether a document stands under the key. -/
theorem Observes.eligible_eq (h : u.Observes w stack w') (hstack : stack ≠ []) : u.eligible w = u.eligibleAmid w' := by
  obtain ⟨app, latest, leader, w₁, hconsiders, hasked⟩ := h
  have hnonempty : ¬ stack.isEmpty = true := by simpa using hstack
  rw [hconsiders.eligible_eq]
  unfold eligibleWith
  rw [Act.bind_apply, hasked]
  dsimp only
  rw [if_neg (not_and_of_not_right _ hnonempty), if_neg hnonempty]
  rfl

theorem Observes.store_eq (h : u.Observes w stack w') : w'.store = w.store := by
  obtain ⟨app, latest, leader, w₁, hconsiders, hasked⟩ := h
  exact (store_of_ask hasked).trans hconsiders.store_eq

theorem eligibleAmid_ends (hreg : u.registry = .shared endpoint) (w : World σ) :
    u.eligibleAmid.Ends w fun r _ _ =>
      r = .ok (if (w.store.get? u.settings.stateKey).isSome then .completed else u.outOfBand) ∨
        ∃ f, r = .error f ∧ (Host.refuse (.get u.settings.stateKey) w.host).1 = some f := by
  refine Act.ends_bind ((Tracker.exists_ends (t := u.tracker) hreg w).mono ?_)
  have hkey : u.tracker.key = u.settings.stateKey := rfl
  rintro r t w' - (⟨rfl, -⟩ | ⟨f, rfl, -, hrefused⟩)
  · rw [hkey]
    cases (w.store.get? u.settings.stateKey).isSome
    · exact Act.ends_pure (.inl rfl)
    · exact Act.ends_pure (.inl rfl)
  · exact .inr ⟨f, rfl, hrefused⟩

/-- The step is run just if a document stands under the key, whatever it is, and the registry can be read. -/
theorem Observes.step_check (hreg : u.registry = .shared endpoint) (h : u.Observes w stack w') (hstack : stack ≠ []) :
    (u.step.check w).1 = (if (w.store.get? u.settings.stateKey).isSome then .completed else u.outOfBand) ∨
      ∃ f, (u.step.check w).1 = .ofFault f ∧ (Host.refuse (.get u.settings.stateKey) w'.host).1 = some f := by
  obtain ⟨t, -, hends⟩ := eligibleAmid_ends hreg w'
  rw [h.store_eq] at hends
  have hcheck : u.step.check w = Step.outcomeOf u.eligible w := rfl
  rw [hcheck, Step.outcomeOf, h.eligible_eq hstack]
  generalize u.eligibleAmid w' = decided at hends ⊢
  obtain ⟨r, w''⟩ := decided
  obtain rfl | ⟨f, rfl, hrefused⟩ := hends
  · exact .inl rfl
  · exact .inr ⟨f, rfl, hrefused⟩

/-- The check changes nothing. -/
theorem step_check_quiet (w : World σ) :
    ∃ t, w.Leads t (u.step.check w).2 ∧ ∀ e ∈ t, e.changes = false := by
  obtain ⟨t, hl, hquiet⟩ := eligible_quiet (u := u) w
  have hcheck : u.step.check w = Step.outcomeOf u.eligible w := rfl
  rw [hcheck, Step.outcomeOf_apply]
  exact ⟨t, hl, hquiet⟩

/-! ## The run -/

variable {r : Except Fault Outcome} {t : List Event} {b : Baseline} {ms : List Move} {es : List Event}

theorem RunEnds.goesOnFrom (h : u.RunEnds w r t w' b ms es) : u.GoesOnFrom (u.noted w).1 b t where
  notes v hv := by
    rw [h.filterMap_eq (fun _ he => Event.stored?_eq_none _ he) fun _ => rfl] at hv
    obtain ⟨k, hk, date, who, -, rfl⟩ := h.follows.exists_note hv
    have hahead : k ∈ (u.noted w).1.ahead := (DatabasePhase.noted_prefix h.prefix_moves).subset hk
    exact ⟨k, date, who, DatabasePhase.mem_ahead.mp hahead, rfl⟩
  calls c hc := by
    rw [h.filterMap_eq (fun _ he => Event.changingCall?_eq_none he) fun _ => rfl] at hc
    obtain ⟨i, hi, rfl⟩ := List.mem_iff_getElem.mp hc
    have hi' : i < (ms.filterMap Move.caller?).length := by rwa [h.follows.calls.length_eq]
    have hchanging := (DatabasePhase.callers_prefix h.prefix_moves).subset (List.getElem_mem hi')
    exact ⟨_, DatabasePhase.mem_ahead.mp (List.mem_of_mem_filter hchanging), h.follows.calls.get hi' hi⟩

theorem RunEnds.startsOver (h : u.RunEnds w r t w' b ms es) (hstart : (u.noted w).1 = .start) :
    u.StartsOver (u.firstFound w) t := by
  have hgoes := h.goesOnFrom
  rw [hstart] at hgoes
  cases ms with
  | nil =>
    have hnone : es = [] := Follows.nil_iff.mp h.follows
    refine .inl ⟨?_, ?_⟩
    · rw [h.filterMap_eq (fun _ he => Event.stored?_eq_none _ he) fun _ => rfl, hnone]
      rfl
    · rw [h.filterMap_eq (fun _ he => Event.changingCall?_eq_none he) fun _ => rfl, hnone]
      rfl
  | cons m ms =>
    obtain ⟨app, hfound, rfl⟩ := h.origin_start hstart (List.cons_ne_nil m ms)
    have hfirst : m = .note .baselineRecorded := by
      have hprefix := h.prefix_moves
      rw [hstart] at hprefix
      exact (List.cons_prefix_cons.mp hprefix).1
    subst hfirst
    obtain ⟨e, es', ⟨date, who, -, rfl⟩, -, rfl⟩ := List.forall₂_cons_left_iff.mp h.follows
    refine .inr ⟨app, date, who, ?_⟩
    rcases h.ends with ⟨-, ht⟩ | ⟨-, ht | ⟨ht, -⟩⟩
    · exact ⟨es', hfound, hgoes, ht⟩
    · exact ⟨_, hfound, hgoes, ht⟩
    · exact ⟨es', hfound, hgoes, ht⟩

/-- What the body of the step leaves behind. -/
theorem step_body_ends (hreg : u.registry = .shared endpoint) (hr : DatabasePhase.ranks? = some u.ranks) (w : World σ) :
    ∃ t, w.Leads t (u.step.body w).2 ∧ ∃ r w' b ms es, u.RunEnds w r t w' b ms es := by
  obtain ⟨t, hl, b, ms, es, h⟩ := upgrade_ends hreg hr w
  rw [step_body]
  exact ⟨t, hl, _, _, b, ms, es, h⟩

/-! ## The document -/

/-- A document from which a run goes on: it tells of progress and names a phase after the first. -/
def Resumable (doc : Json) (k : DatabasePhase) (b : Baseline) : Prop :=
  k ≠ .start ∧ ∃ p, doc.Tells p ∧ k.name = p.phase ∧ b = p.baseline

omit [Host σ] in
/-- A run finds the phase from which it goes on, or the first one. -/
theorem noted_resumable (hr : DatabasePhase.ranks? = some u.ranks) {doc : Json} (hsorted : doc.sorted)
    (hstands : w.store.get? u.settings.stateKey = some doc) :
    Resumable doc (u.noted w).1 (u.noted w).2 ∨ (u.noted w).1 = .start ∧ ∀ k b, ¬ Resumable doc k b := by
  have hstored : ∀ j, w.store.get? u.settings.stateKey = some j → j.sorted := by
    intro j hj
    rw [hstands] at hj
    cases hj
    exact hsorted
  have htakes := Tracker.interpret_takesUp hr hstored
  rw [DatabasePhase.initial_eq hr] at htakes
  have htakes : Tracker.TakesUp DatabasePhase.name DatabasePhase.sequence .start (w.store.get? u.settings.stateKey)
      (u.noted w).1 (u.noted w).2 := htakes
  generalize hphase : (u.noted w).1 = phase at htakes ⊢
  generalize (u.noted w).2 = baseline at htakes ⊢
  by_cases hfirst : phase = .start
  · refine .inr ⟨hfirst, ?_⟩
    rintro k b ⟨hlater, p, htells, hname, -⟩
    have hmem : k ∈ DatabasePhase.sequence := by cases k <;> decide
    have := (htakes.phase_iff hr hlater).mpr ⟨hmem, doc, p, hstands, htells, hname.symm⟩
    exact hlater (this.symm.trans hfirst)
  · refine .inl ⟨hfirst, ?_⟩
    rw [hstands] at htakes
    cases htakes with
    | known htells _ hname => exact ⟨_, htells, hname, rfl⟩
    | _ => exact absurd rfl hfirst

/-! ## The step -/

/-- What changes nothing before a run does not count. -/
theorem GoesOnFrom.after {p : DatabasePhase} {t₀ : List Event} (hquiet : ∀ e ∈ t₀, e.changes = false)
    (h : u.GoesOnFrom p b t) : u.GoesOnFrom p b (t₀ ++ t) where
  notes := by
    rw [Event.filterMap_quiet_append hquiet fun _ he => Event.stored?_eq_none _ he]
    exact h.notes
  calls := by
    rw [Event.filterMap_quiet_append hquiet fun _ he => Event.changingCall?_eq_none he]
    exact h.calls

theorem StartsOver.after {found : Option Application} {t₀ : List Event} (hquiet : ∀ e ∈ t₀, e.changes = false)
    (h : u.StartsOver found t) : u.StartsOver found (t₀ ++ t) := by
  rcases h with ⟨hnotes, hcalls⟩ | ⟨app, date, who, rest, hfound, hgoes, ht⟩
  · refine .inl ⟨?_, ?_⟩
    · rw [Event.filterMap_quiet_append hquiet fun _ he => Event.stored?_eq_none _ he, hnotes]
    · rw [Event.filterMap_quiet_append hquiet fun _ he => Event.changingCall?_eq_none he, hcalls]
  · refine .inr ⟨app, date, who, rest, hfound, hgoes.after hquiet, ?_⟩
    rw [Event.changesOf_append, Event.changesOf_eq_nil hquiet, ht]
    rfl

/-- When an upgrade is in progress, the step is run if and only if a document stands under the key.  The run goes on from
the phase that the document names; but where it names none after the first, or cannot be read, the upgrade starts over. -/
theorem visit_in_progress (hreg : u.registry = .shared endpoint) (hr : DatabasePhase.ranks? = some u.ranks)
    (hsorted : ∀ j, w.store.get? u.settings.stateKey = some j → j.sorted)
    (h : u.Observes (w.note (.status (u.step (σ := σ)).description)) stack w') (hstack : stack ≠ []) :
    ∃ v after, u.step.visit w = (.ok v, after) ∧
    ((Host.refuse (.get u.settings.stateKey) w'.host).1 = none →
      v.check = if (w.store.get? u.settings.stateKey).isSome then .completed else u.outOfBand) ∧
    (v.body.isSome → ∃ doc t, w.store.get? u.settings.stateKey = some doc ∧ w.Leads t after ∧
      ((∃ k b, Resumable doc k b ∧ u.GoesOnFrom k b t) ∨
        (∀ k b, ¬ Resumable doc k b) ∧
          u.StartsOver (u.firstFound (u.step.check (w.note (.status (u.step (σ := σ)).description))).2) t)) := by
  rcases hcheck : u.step.check (w.note (.status (u.step (σ := σ)).description)) with ⟨check, w₁⟩
  obtain ⟨t₁, hl₁, hquiet⟩ := step_check_quiet (u := u) (w.note (.status (u.step (σ := σ)).description))
  have hdecided := h.step_check hreg hstack
  have hstore : (w.note (.status (u.step (σ := σ)).description)).store = w.store := rfl
  rw [hcheck] at hl₁ hdecided
  rw [hstore] at hdecided
  by_cases hkind : check.kind = .completed
  · obtain ⟨t₂, hl₂, r, w₂, b, ms, es, hrun⟩ := step_body_ends hreg hr w₁
    rw [Step.visit_of_completed hcheck hkind]
    rw [step_body] at hl₂ ⊢
    refine ⟨_, _, rfl, fun hgranted => ?_, fun _ => ?_⟩
    · exact hdecided.resolve_right fun ⟨f, _, hrefused⟩ => nomatch hgranted.symm.trans hrefused
    · have hstands : (w.store.get? u.settings.stateKey).isSome := by
        rcases hdecided with rfl | ⟨f, rfl, -⟩
        · by_contra hnone
          rw [if_neg hnone] at hkind
          cases hkind
        · cases hkind
      obtain ⟨doc, hdoc⟩ := Option.isSome_iff_exists.mp hstands
      have hkept : w₁.store = w.store := (hl₁.store_eq hquiet).trans hstore
      have hdoc₁ : w₁.store.get? u.settings.stateKey = some doc := by rw [hkept, hdoc]
      have hbefore : ∀ e ∈ Event.status (u.step (σ := σ)).description :: t₁, e.changes = false := by
        rintro e (_ | ⟨_, he⟩)
        · rfl
        · exact hquiet e he
      have hl := ((World.leads_note w rfl).trans hl₁).trans hl₂
      refine ⟨doc, _, hdoc, hl, ?_⟩
      rcases noted_resumable hr (hsorted doc hdoc) hdoc₁ with hresumable | ⟨hstart, hnone⟩
      · refine .inl ⟨_, _, hresumable, GoesOnFrom.after hbefore ?_⟩
        rw [← hrun.origin_later hresumable.1]
        exact hrun.goesOnFrom
      · exact .inr ⟨hnone, (hrun.startsOver hstart).after hbefore⟩
  · rw [Step.visit_of_not_completed hcheck hkind]
    refine ⟨_, _, rfl, fun hgranted => ?_, fun hran => nomatch hran⟩
    exact hdecided.resolve_right fun ⟨f, _, hrefused⟩ => nomatch hgranted.symm.trans hrefused

end DatabaseUpgrade

/-! ## An upgrade that is begun anew -/

namespace Publishing

/-- The application was grown for an upgrade that is in progress, and this document stands under its key. -/
def amid (document : Json) : World Publishing :=
  { World.start ⟨⟨grown⟩, 2, [.nat 0, .nat 1]⟩ "" FileTree.empty with
    store := Table.empty.insert Config.Upgrade.default.stateKey document }

/-- A document with a phase, a number of units and something that is no date. -/
def undated : Json :=
  .obj [("original_revision", .nat 0), ("original_scale", .nat 1),
    ("state", .str DatabasePhase.primaryUnitUpgraded.name), ("updated_at", .str "yesterday")]

theorem amid_stands (document : Json) :
    (amid document).store.get? Config.Upgrade.default.stateKey = some document := Table.get?_insert_self _ _ _

theorem undated_untold (p : Progress) : ¬ undated.Tells p := by
  intro h
  have hdate : Json.instant? (.str "yesterday") = none := by decide +kernel
  have hread : Json.optional? Json.instant? (undated.get? "updated_at") = (Json.instant? (.str "yesterday")).map some :=
    rfl
  rw [h.updatedAt, hdate] at hread
  cases hread

end Publishing

namespace Deployment

/-- The step in the world in which it is checked. -/
theorem observes_amid (document : Json) : ∃ w', databaseDue.Observes
    ((Publishing.amid document).note (.status (databaseDue.step (σ := Publishing)).description)) [.nat 0, .nat 1] w' :=
  ⟨_, Publishing.grown, 2, "mysql/0", _,
    ⟨⟨some "8.0/stable", none, none, Table.empty⟩, "8.0/stable", _, _, rfl, rfl, rfl, rfl, rfl, rfl, rfl⟩, rfl⟩

theorem visit_in_progress_resumed : databaseDue.registry = .shared none ∧
    DatabasePhase.ranks? = some databaseDue.ranks ∧
    (∃ w', databaseDue.Observes ((Publishing.amid Publishing.resumed.sort).note
      (.status (databaseDue.step (σ := Publishing)).description)) [.nat 0, .nat 1] w') ∧
    ∃ v after, databaseDue.step.visit (Publishing.amid Publishing.resumed.sort) = (.ok v, after) ∧ v.body.isSome ∧
      ∃ k b t, DatabaseUpgrade.Resumable Publishing.resumed.sort k b ∧ databaseDue.GoesOnFrom k b t ∧
        (Publishing.amid Publishing.resumed.sort).Leads t after := by
  obtain ⟨w', hobserves⟩ := observes_amid Publishing.resumed.sort
  have hran : (databaseDue.step.visit (Publishing.amid Publishing.resumed.sort)).1.map (·.body.isSome) = .ok true := by
    decide +kernel
  have hread : Progress.decoder.ofJson Publishing.resumed.sort =
      .ok ⟨DatabasePhase.upgradeResumed.name, ⟨some 0, some 1⟩, none, none⟩ := by decide +kernel
  have hresumable : DatabaseUpgrade.Resumable Publishing.resumed.sort .upgradeResumed ⟨some 0, some 1⟩ :=
    ⟨by decide, _, (Progress.decoder_ofJson_iff (Json.sort_sorted _)).mp hread, rfl, rfl⟩
  obtain ⟨v, after, hvisit, -, hbody⟩ := DatabaseUpgrade.visit_in_progress (u := databaseDue) (w := Publishing.amid Publishing.resumed.sort)
    rfl DatabaseUpgrade.ranks_standard (fun j hj => Option.some.inj ((Publishing.amid_stands _).symm.trans hj) ▸
      Json.sort_sorted _) hobserves (by simp)
  rw [hvisit] at hran
  have hran : v.body.isSome := Except.ok.inj hran
  obtain ⟨doc, t, hdoc, hl, hends⟩ := hbody hran
  obtain rfl : Publishing.resumed.sort = doc := Option.some.inj ((Publishing.amid_stands _).symm.trans hdoc)
  obtain ⟨k, b, hnamed, hgoes⟩ | ⟨hnone, -⟩ := hends
  · exact ⟨rfl, DatabaseUpgrade.ranks_standard, ⟨w', hobserves⟩, v, after, hvisit, hran, k, b, t, hnamed, hgoes, hl⟩
  · exact absurd hresumable (hnone _ _)

/-- An upgrade is in progress, and something is noted of it that cannot be read: the step is run, notes the units that
were added for the upgrade as those that were there at its start, and adds further ones. -/
theorem begun_anew : (∃ w', databaseDue.Observes ((Publishing.amid Publishing.undated).note
      (.status (databaseDue.step (σ := Publishing)).description)) [.nat 0, .nat 1] w') ∧
    (∀ p, ¬ Publishing.undated.Tells p) ∧
    (Plan.run "upgrade" [databaseDue.step] (Publishing.amid Publishing.undated)).1.map PlanReport.executed = .ok 1 ∧
    ((Plan.run "upgrade" [databaseDue.step] (Publishing.amid Publishing.undated)).2.log.reverse.filterMap
      (Event.stored? databaseDue.settings.stateKey)).head?.map (fun j => Tracker.interpret databaseDue.ranks (some j)) =
        some (.baselineRecorded, ⟨some 1, some 3⟩) ∧
    ((Plan.run "upgrade" [databaseDue.step] (Publishing.amid Publishing.undated)).2.log.reverse.filterMap
      Event.changingCall?).head? = some (.scale "mysql" 5) :=
  ⟨observes_amid _, Publishing.undated_untold, by decide +kernel, by decide +kernel, by decide +kernel⟩

end Deployment

end Rollout
