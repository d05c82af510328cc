import Rollout.Proofs.Obliging
import Rollout.Proofs.Plan
import Rollout.Proofs.Upgrade.Phases

/-!
# Rollout.Proofs.Upgrade.Resume — an upgrade that is taken up again

Whatever is noted of an upgrade, and whatever the orchestrator and the registry answer, a run does over nothing that
was noted as done.  It makes the calls that are left, in their order and each at most once, and no call before the
phases ahead of it are noted.

* `Store.get?_replay`: what stands under a key after a row of things done.
* `DatabaseUpgrade.Resumed`: what a run leaves behind.
* `DatabaseUpgrade.run_resumes`: every run does so.
-/

namespace Rollout

/-- What stands under a key after one thing done that is not its removal. -/
theorem Event.get?_applyTo {key : String} {e : Event} (h : e ≠ .access (.delete key) true) (store : Table Json) :
    (e.applyTo store).get? key = (e.stored? key).or (store.get? key) := by
  match e with
  | .access (.put k value) true =>
    by_cases hk : k = key
    · subst hk
      simp [Event.applyTo, Event.stored?]
    · simp [Event.applyTo, Event.stored?, hk, Table.get?_insert_of_ne _ (Ne.symm hk)]
  | .access (.delete k) true =>
    have hk : key ≠ k := fun heq => h (heq ▸ rfl)
    simp [Event.applyTo, Event.stored?, Table.get?_erase_of_ne _ hk]
  | .access (.put _ _) false | .access (.delete _) false | .access (.get _) _ => rfl
  | .command .. | .call _ | .request _ | .file _ | .status _ | .printed _ | .shown _ => rfl

/-- Where nothing is removed, the document stored last stands under its key. -/
theorem Store.get?_replay {key : String} {t : List Event} (h : Event.access (.delete key) true ∉ t)
    (store : Table Json) :
    (Store.replay store t).get? key = ((t.filterMap (Event.stored? key)).getLast?).or (store.get? key) := by
  induction t generalizing store with
  | nil => rfl
  | cons e t ih =>
    obtain ⟨he, ht⟩ := not_or.mp (mt List.mem_cons.mpr h)
    rw [Store.replay_cons, ih ht, Event.get?_applyTo (Ne.symm he)]
    cases hstored : e.stored? key with
    | none => rw [List.filterMap_cons_none hstored, Option.none_or]
    | some value =>
      rw [List.filterMap_cons_some hstored, List.getLast?_cons]
      cases (t.filterMap (Event.stored? key)).getLast? <;> rfl

namespace DatabaseUpgrade

variable {σ : Type} [Host σ] (u : DatabaseUpgrade)

/-- What a run leaves behind that started in `w`, went by `b`, did `t` and ended with `o` in `w'`. -/
structure Resumed (w : World σ) (b : Baseline) (t : List Event) (o : Outcome) (w' : World σ) : Prop where
  /-- The calls that change what runs are those of the first phases left, each of them once and in their order. -/
  calls : ∃ ks, ks <+: (u.noted w).1.changing ∧ List.Forall₂ (u.Makes b) ks (t.filterMap Event.changingCall?)
  /-- Before the call of a phase, the phases ahead of it that were left are noted, in their order. -/
  before_call : ∀ t₁ c t₂, t = t₁ ++ .call c :: t₂ → c.changes →
    ∃ k, (u.noted w).1.changing[(t₁.filterMap Event.changingCall?).length]? = some k ∧ u.Makes b k c ∧
      List.Forall₂ (fun j value => ∃ date who, value = record b j date who)
        ((u.noted w).1.ahead.filter (·.place < k.place)) (t₁.filterMap (Event.stored? u.settings.stateKey))
  /-- A run that fails leaves the document that was stored last, or the one it found. -/
  failed : o.kind = .failed → w'.store.get? u.settings.stateKey =
    ((t.filterMap (Event.stored? u.settings.stateKey)).getLast?).or (w.store.get? u.settings.stateKey)
  /-- A run that completes leaves no document. -/
  completed : o.kind = .completed → Host.Candid σ → w'.store.get? u.settings.stateKey = none
  ended : o.kind = .failed ∨ o.kind = .completed
  /-- It goes by the baseline that was noted, or by that of the application it finds when nothing was noted. -/
  baseline_noted : (u.noted w).1 ≠ .start → b = (u.noted w).2
  baseline_found : (u.noted w).1 = .start → t.filterMap Event.changingCall? ≠ [] →
    ∃ app, u.firstFound w = some app ∧ b = app.baseline

variable {u} {endpoint : Option String} {w w' : World σ} {r : Except Fault Outcome} {t : List Event} {b : Baseline}
  {ms : List Move} {es : List Event}

namespace RunEnds

/-- Among the things done the calls and the documents stored are those of the moves made. -/
theorem filterMap_eq (h : u.RunEnds w r t w' b ms es) {β : Type} {f : Event → Option β}
    (hf : ∀ e, e.changes = false → f e = none) (hdelete : ∀ a, f (.access (.delete a) true) = none) :
    t.filterMap f = es.filterMap f := by
  rw [← Event.filterMap_changesOf hf]
  rcases h.ends with ⟨-, ht⟩ | ⟨-, ht | ⟨ht, -⟩⟩
  · rw [ht]
  · rw [ht, List.filterMap_append, List.filterMap_cons_none (hdelete _), List.filterMap_nil, List.append_nil]
  · rw [ht]

theorem calls (h : u.RunEnds w r t w' b ms es) :
    ∃ ks, ks <+: (u.noted w).1.changing ∧ List.Forall₂ (u.Makes b) ks (t.filterMap Event.changingCall?) := by
  refine ⟨_, DatabasePhase.callers_prefix h.prefix_moves, ?_⟩
  rw [h.filterMap_eq (fun _ he => Event.changingCall?_eq_none he) fun _ => rfl]
  exact h.follows.calls

/-- What was done before a call are the moves before it. -/
theorem before_call (h : u.RunEnds w r t w' b ms es) {t₁ t₂ : List Event} {c : Call} (ht : t = t₁ ++ .call c :: t₂)
    (hc : c.changes = true) :
    ∃ k, (u.noted w).1.changing[(t₁.filterMap Event.changingCall?).length]? = some k ∧ u.Makes b k c ∧
      List.Forall₂ (fun j value => ∃ date who, value = record b j date who)
        ((u.noted w).1.ahead.filter (·.place < k.place)) (t₁.filterMap (Event.stored? u.settings.stateKey)) := by
  have hsplit : Event.changesOf t = Event.changesOf t₁ ++ .call c :: Event.changesOf t₂ := by
    rw [ht, Event.changesOf_append]
    exact congrArg _ (List.filter_cons_of_pos hc)
  -- The removal at the end is no call, so the call is among the moves.
  obtain ⟨es₂, hes⟩ : ∃ es₂, es = Event.changesOf t₁ ++ .call c :: es₂ := by
    rcases h.ends with ⟨-, hes⟩ | ⟨-, hes | ⟨hes, -⟩⟩
    · exact ⟨_, hes.symm.trans hsplit⟩
    · rw [hes] at hsplit
      rcases List.append_eq_append_iff.mp hsplit with ⟨rest, -, hrest⟩ | ⟨es', hes', hrest⟩
      · cases rest <;> simp at hrest
      · cases es' with
        | nil => simp at hrest
        | cons e es₂ =>
          obtain ⟨rfl, -⟩ := List.cons.inj hrest
          exact ⟨es₂, hes'⟩
    · exact ⟨_, hes.symm.trans hsplit⟩
  obtain ⟨ms₁, k, ms₂, hms, hfollows, hmakes⟩ := Follows.split_call (hes ▸ h.follows)
  have hprefix : ms₁ ++ [.call k] <+: (u.noted w).1.moves := by
    refine List.IsPrefix.trans ?_ h.prefix_moves
    rw [hms]
    exact ⟨ms₂, by simp⟩
  obtain ⟨hnoted, hk⟩ := DatabasePhase.eq_of_call_prefix hprefix
  refine ⟨k, ?_, hmakes, ?_⟩
  · rw [← Event.filterMap_changesOf fun _ he => Event.changingCall?_eq_none he, ← hfollows.calls.length_eq]
    exact hk
  · rw [← hnoted, ← Event.filterMap_changesOf fun _ he => Event.stored?_eq_none _ he]
    exact hfollows.notes.imp fun j value ⟨date, who, _, hvalue⟩ => ⟨date, who, hvalue⟩

theorem baseline_found (h : u.RunEnds w r t w' b ms es) (hp : (u.noted w).1 = .start)
    (ht : t.filterMap Event.changingCall? ≠ []) : ∃ app, u.firstFound w = some app ∧ b = app.baseline := by
  refine h.origin_start hp ?_
  rintro rfl
  apply ht
  rw [h.filterMap_eq (fun _ he => Event.changingCall?_eq_none he) fun _ => rfl, Follows.nil_iff.mp h.follows]
  rfl

/-- The moves of a run remove no document, so as long as it has made nothing but moves all are there. -/
theorem not_removed (h : u.RunEnds w r t w' b ms es) (ht : Event.changesOf t = es) (key : String) :
    Event.access (.delete key) true ∉ t := by
  intro hmem
  refine h.follows.not_mem_delete key true ?_
  rw [← ht]
  exact List.mem_filter.mpr ⟨hmem, rfl⟩

/-- A run that ends well leaves no document. -/
theorem absent {o : Outcome} (h : u.RunEnds w (.ok o) t w' b ms es) (hl : w.Leads t w') (candid : Host.Candid σ) :
    w'.store.get? u.settings.stateKey = none := by
  rcases h.ends with ⟨⟨f, hf⟩, -⟩ | ⟨-, ht | ⟨-, hmissing⟩⟩
  · cases hf
  · rw [hl.store, ← Store.replay_changesOf, ht, Store.replay_append]
    exact Table.get?_erase_self _ _
  · exact hmissing candid

end RunEnds

/-- The body of the step is the upgrade, which does not panic. -/
theorem step_body (u : DatabaseUpgrade) (w : World σ) :
    u.step.body w = (.ok (Step.reported (u.upgrade w).1), (u.upgrade w).2) := Step.endOf_lift _ _

/-- However far an upgrade is, and whatever is answered, a run takes it up where it was left. -/
theorem run_resumes (u : DatabaseUpgrade) (hreg : u.registry = .shared endpoint)
    (hr : DatabasePhase.ranks? = some u.ranks) (w : World σ) :
    ∃ o t b, (u.step.body w).1 = .ok o ∧ w.Leads t (u.step.body w).2 ∧ u.Resumed w b t o (u.step.body w).2 := by
  obtain ⟨t, hl, b, ms, es, h⟩ := upgrade_ends hreg hr w
  rw [step_body]
  generalize u.upgrade w = y at hl h
  obtain ⟨r, w'⟩ := y
  rcases h.ends with ⟨⟨f, rfl⟩, ht⟩ | ⟨⟨o, rfl, ho⟩, -⟩
  · refine ⟨_, t, b, rfl, hl, h.calls, fun _ _ _ => h.before_call, fun _ => ?_, (fun hk => nomatch hk), .inl rfl,
      h.origin_later, h.baseline_found⟩
    rw [hl.store, Store.get?_replay (h.not_removed ht _)]
  · refine ⟨o, t, b, rfl, hl, h.calls, fun _ _ _ => h.before_call, fun hk => ?_, fun _ => h.absent hl, .inr ho,
      h.origin_later, h.baseline_found⟩
    rw [ho] at hk
    cases hk

/-- The upgrade of an installation in which every setting has its default. -/
def standard : DatabaseUpgrade :=
  ⟨.direct, .shared none, Manifest.empty, Config.Upgrade.default, 0, DatabasePhase.ranks?.get (by decide +kernel)⟩

theorem ranks_standard : DatabasePhase.ranks? = some standard.ranks :=
  (Option.some_get (x := DatabasePhase.ranks?) (by decide +kernel)).symm

theorem run_resumes_standard : standard.registry = .shared none ∧ DatabasePhase.ranks? = some standard.ranks ∧
    (standard.step.body (Obliging.world "mysql")).1.map Outcome.kind = .ok .completed ∧
    ∃ o t b, (standard.step.body (Obliging.world "mysql")).1 = .ok o ∧
      (Obliging.world "mysql").Leads t (standard.step.body (Obliging.world "mysql")).2 ∧
      standard.Resumed (Obliging.world "mysql") b t o (standard.step.body (Obliging.world "mysql")).2 :=
  ⟨rfl, ranks_standard, by decide +kernel, run_resumes standard rfl ranks_standard (Obliging.world "mysql")⟩

end DatabaseUpgrade

end Rollout
