import Rollout.Deploy.Steps
import Rollout.Proofs.Plan
import Rollout.Proofs.Provisioner
import Rollout.Proofs.Variables.Reconcile

/-!
# Rollout.Proofs.Deploy.Apply — what a run of an apply step does

A run computes the variables that are due, applies them, and persists them when they have been applied.  Whatever fails
on the way, it does nothing else that lasts.

* `PlanApply.due`: the variables that follow from what a store holds.
* `PlanApply.Acts`: what a run may do.
* `PlanApply.apply_ends`: applying and persisting acts so.
* `PlanApply.Deploys`, `PlanApply.Deploys.ends`: so do both steps that apply the variables of a plan.
-/

namespace Rollout

/-- A thing done that changes nothing and does not start to apply a plan. -/
def Event.Idle (e : Event) : Prop := e.changes = false ∧ ¬ e.Starts "apply"

namespace PlanApply

variable {σ : Type}

/-- The variables that follow from what a store holds. -/
def due (p : PlanApply) (store : Table Json) : Variables := p.desired.over (Variables.ofEntry (store.get? p.key))

/-- What is done when variables are persisted. -/
def persisted (p : PlanApply) (vars : Variables) : Event := .access (.put p.key (.ofTable vars)) true

/-- The file in the directory of the plan that the provisioner reads the variables from. -/
def file (p : PlanApply) : Path := p.provisioner.path.join Provisioner.variablesFile

theorem due_sorted {p : PlanApply} (h : p.desired.Sorted) (store : Table Json) : (p.due store).All Json.sorted :=
  h.over (Variables.ofEntry_sorted _)

variable [Host σ]

/-- What a run may do that starts in `w`: it starts the provisioner with the variables that are due, and nothing it
does lasts but that it persists them, once the provisioner has ended well. -/
structure Acts (p : PlanApply) (w : World σ) (t : List Event) : Prop where
  started : ∀ c files, .command c files ∈ t → c.args.head? = some "apply" →
    files.read w.here p.file = .ok (Json.ofTable (p.due w.store)).compact
  changes : Event.changesOf t = [] ∨ ∃ t₁ t₂, t = t₁ ++ p.persisted (p.due w.store) :: t₂ ∧
    Event.changesOf t₁ = [] ∧ Event.changesOf t₂ = [] ∧ Host.Succeeds w.here w.host "apply" t₁

variable {p : PlanApply} {w : World σ} {t t' : List Event}

/-- What changes nothing and is no apply command may follow. -/
theorem Acts.append (h : p.Acts w t) (hquiet : ∀ e ∈ t', e.Idle) :
    p.Acts w (t ++ t') := by
  have hnil : Event.changesOf t' = [] := Event.changesOf_eq_nil fun e he => (hquiet e he).1
  constructor
  case started =>
    intro c files he hverb
    rcases List.mem_append.mp he with he | he
    · exact h.started c files he hverb
    · exact absurd ⟨c, files, rfl, hverb⟩ (hquiet _ he).2
  case changes =>
    rcases h.changes with hchanges | ⟨t₁, t₂, rfl, h₁, h₂, hsucceeds⟩
    · exact .inl (by rw [Event.changesOf_append, hchanges, hnil]; rfl)
    · refine .inr ⟨t₁, t₂ ++ t', by simp, h₁, ?_, hsucceeds⟩
      rw [Event.changesOf_append, h₂, hnil]
      rfl

theorem acts_of_quiet (h : ∀ e ∈ t, e.Idle) : p.Acts w t where
  started c files he hverb := absurd ⟨c, files, rfl, hverb⟩ (h _ he).2
  changes := .inl (Event.changesOf_eq_nil fun e he => (h e he).1)

theorem not_starts_access (a : Access) (granted : Bool) (verb : String) : ¬ (Event.access a granted).Starts verb := by
  rintro ⟨c, files, h, -⟩
  cases h

theorem not_starts_status (text verb : String) : ¬ (Event.status text).Starts verb := by
  rintro ⟨c, files, h, -⟩
  cases h

theorem acts_of_applies {r : Except Fault Unit} {w' : World σ} (h : p.provisioner.Applies (p.due w.store) w r t w') :
    p.Acts w t where
  started c files he _ := h.started c files he
  changes := .inl (Event.changesOf_eq_nil h.quiet)

/-- Variables that were applied may be persisted. -/
theorem acts_of_persisted {w' : World σ} (h : p.provisioner.Applies (p.due w.store) w (.ok ()) t w') :
    p.Acts w (t ++ [p.persisted (p.due w.store)]) where
  started c files he _ := by
    rcases List.mem_append.mp he with he | he
    · exact h.started c files he
    · cases List.mem_singleton.mp he
  changes := .inr ⟨t, [], rfl, Event.changesOf_eq_nil h.quiet, rfl, h.succeeded rfl⟩

/-- Nothing that a run does lasts but that it persists the variables that are due. -/
theorem Acts.only (h : p.Acts w t) : ∀ e ∈ t, e.changes = true → e = p.persisted (p.due w.store) := by
  intro e he hchanges
  have hmem : e ∈ Event.changesOf t := List.mem_filter.mpr ⟨he, hchanges⟩
  rcases h.changes with hnil | ⟨t₁, t₂, rfl, h₁, h₂, -⟩
  · rw [hnil] at hmem
    cases hmem
  · have hput : Event.changesOf [p.persisted (p.due w.store)] = [p.persisted (p.due w.store)] := rfl
    rw [← List.singleton_append, Event.changesOf_append, Event.changesOf_append, h₁, h₂, hput] at hmem
    simpa using hmem

/-- Variables are persisted right after the provisioner has ended well. -/
theorem Acts.succeeds {t₁ t₂ : List Event} (h : p.Acts w t) (ht : t = t₁ ++ p.persisted (p.due w.store) :: t₂) :
    Host.Succeeds w.here w.host "apply" t₁ := by
  have hput : (p.persisted (p.due w.store)).changes = true := rfl
  rcases h.changes with hnil | ⟨t₁', t₂', ht', h₁, h₂, hsucceeds⟩
  · have hmem : p.persisted (p.due w.store) ∈ Event.changesOf t := by
      rw [ht]
      exact List.mem_filter.mpr ⟨by simp, hput⟩
    rw [hnil] at hmem
    cases hmem
  · -- There is only one such access, so the two places are the same.
    have hnot : ∀ t', Event.changesOf t' = [] → p.persisted (p.due w.store) ∉ t' := by
      intro t' hnil hmem
      have hmem := List.mem_filter.mpr ⟨hmem, hput⟩
      rw [Event.changesOf] at hnil
      rw [hnil] at hmem
      cases hmem
    have heq := ht'.symm.trans ht
    rw [List.append_cons_inj_of_notMem (hnot t₁' h₁) (hnot t₂' h₂)] at heq
    rw [← heq.1]
    exact hsucceeds

omit [Host σ] in
/-- A store in which variables were persisted holds them, and is otherwise as it was. -/
theorem replay_of_only {vars : Variables} (h : ∀ e ∈ t, e.changes = true → e = p.persisted vars) (store : Table Json) :
    (p.persisted vars ∉ t → Store.replay store t = store) ∧
      (p.persisted vars ∈ t → Store.replay store t = store.insert p.key (.ofTable vars)) := by
  induction t generalizing store with
  | nil => exact ⟨fun _ => rfl, fun h => nomatch h⟩
  | cons e t ih =>
    have hrest := fun e' he' => h e' (List.mem_cons_of_mem e he')
    rw [Store.replay_cons]
    by_cases hchanges : e.changes = true
    · obtain rfl := h e List.mem_cons_self hchanges
      refine ⟨fun hmem => absurd List.mem_cons_self hmem, fun _ => ?_⟩
      obtain ⟨hkept, hput⟩ := ih hrest (store.insert p.key (.ofTable vars))
      show Store.replay (store.insert p.key (.ofTable vars)) t = _
      by_cases hmem : p.persisted vars ∈ t
      · rw [hput hmem]
        refine Table.ext_get? fun k => ?_
        simp only [Table.get?_insert]
        by_cases hk : k = p.key <;> simp [hk]
      · exact hkept hmem
    · have hsame := Event.applyTo_of_not_changes (Bool.not_eq_true _ ▸ hchanges) store
      have hne : p.persisted vars ≠ e := by
        rintro rfl
        exact hchanges rfl
      rw [hsame]
      simpa [hne] using ih hrest store

variable {endpoint : Option String}

/-- Variables are persisted only when they have been applied, and a run that succeeds has persisted them. -/
theorem apply_ends (hreg : p.registry = .shared endpoint) (hsorted : p.desired.Sorted) (w : World σ) :
    p.apply.Ends w fun r t _ => p.Acts w t ∧ ∀ vars, r = .ok (.ok vars) → p.persisted (p.due w.store) ∈ t := by
  unfold apply intended
  rw [Risky.bind_lift]
  refine Act.ends_bind (((Variables.reconcile_tracks hreg p.key p.desired w).and
    (Variables.reconcile_ends hreg p.key w p.desired)).mono ?_)
  rintro r t₁ w₁ hl ⟨hhost, ⟨granted, rfl⟩, hvars, -⟩
  cases r with
  | error f =>
    refine ⟨acts_of_quiet fun e he => ?_, fun _ h => ?_⟩
    · rw [List.mem_singleton.mp he]
      exact ⟨rfl, not_starts_access _ _ _⟩
    · cases h
  | ok vars =>
    obtain rfl : vars = p.due w.store := hvars vars rfl
    dsimp only
    rw [Risky.bind_lift]
    refine Act.ends_bind (Act.ends_publish (Risky.ends_bind ?_))
    refine (p.provisioner.retried_apply_ends p.retry _ [] _).mono ?_
    rintro r t₂ w₂ - h
    -- Neither the line of progress nor the access starts anything.
    have happlies := h.mono fun _ h => (h.published _).after _ hl.here hhost (by simp [Event.changes]) (by simp)
    rcases r with f | panic | _
    · exact ⟨acts_of_applies happlies, fun _ h => by cases h⟩
    · obtain ⟨f, happlies⟩ := happlies
      exact ⟨acts_of_applies happlies, fun _ h => by cases h⟩
    · have hsort : (Json.ofTable (p.due w.store)).sort = .ofTable (p.due w.store) :=
        Json.sort_eq_self (Json.sorted_ofTable (due_sorted hsorted _))
      dsimp only
      rw [Risky.bind_lift]
      refine Act.ends_bind ((Registry.update_ends hreg p.key w₂ _).mono ?_)
      rw [hsort]
      rintro r t₃ w₃ - (⟨rfl, rfl⟩ | ⟨f, rfl, rfl, -⟩)
      · refine Act.ends_pure ⟨?_, fun _ _ => by simp [persisted]⟩
        simpa [persisted] using acts_of_persisted happlies
      · refine ⟨?_, fun _ h => by cases h⟩
        have hquiet : ∀ e ∈ [Event.access (.put p.key (.ofTable (p.due w.store))) false], e.Idle := by
          intro e he
          rw [List.mem_singleton.mp he]
          exact ⟨rfl, not_starts_access _ _ _⟩
        simpa using (acts_of_applies happlies).append hquiet

/-! ## Steps -/

/-- The steps that apply the variables of a plan. -/
inductive Deploys (p : PlanApply) : Step σ → Prop
  | apply (force : Bool) : p.Deploys (p.step force)
  | application (d : AppDeploy) (hd : d.apply = p) (force : Bool) : p.Deploys (d.step force)

/-- A look at an application changes nothing and is no apply command. -/
theorem not_starts_of_starts {e : Event} {verb verb' : String} (h : e.Starts verb) (hne : verb ≠ verb') :
    ¬ e.Starts verb' := by
  rintro ⟨c, files, rfl, hverb'⟩
  obtain ⟨c', files', hc, hverb⟩ := h
  cases hc
  exact hne (Option.some.inj (hverb.symm.trans hverb'))

theorem settled_quiet (d : AppDeploy) : (d.wait.settled d.orchestrator d.application d.accepted : Act σ Application).Does
    Event.Idle := by
  have hcall : Event.Idle (.call (.application d.application)) := by
    refine ⟨rfl, ?_⟩
    rintro ⟨c, files, h, -⟩
    cases h
  refine d.wait.settled_does d.orchestrator d.application hcall ?_ d.accepted
  intro e he
  exact ⟨he.not_changes, not_starts_of_starts he (by decide)⟩

theorem endOf_ends {x : Risky σ Outcome} (h : x.Ends w fun r t _ => p.Acts w t ∧ ∀ o, r = .ok (.ok o) →
    p.persisted (p.due w.store) ∈ t) : ∃ t, w.Leads t (Step.endOf x w).2 ∧ p.Acts w t ∧
      ((Step.endOf x w).1.map Outcome.kind = .ok .completed → p.persisted (p.due w.store) ∈ t) := by
  obtain ⟨t, hl, hacts, hok⟩ := h
  rw [Step.endOf_apply]
  refine ⟨t, hl, hacts, fun hkind => ?_⟩
  rcases hr : (x w).1 with f | p | o
  · rw [hr] at hkind
    cases hkind
  · rw [hr] at hkind
    cases hkind
  · exact hok o hr

/-- Either step acts so, whatever fails in it, and has persisted the variables if it completes. -/
theorem Deploys.ends {step : Step σ} (h : p.Deploys step) (hreg : p.registry = .shared endpoint)
    (hsorted : p.desired.Sorted) (w : World σ) : ∃ t, w.Leads t (step.body w).2 ∧ p.Acts w t ∧
      ((step.body w).1.map Outcome.kind = .ok .completed → p.persisted (p.due w.store) ∈ t) := by
  cases h with
  | apply force =>
    refine endOf_ends (x := p.run) ?_
    unfold run
    refine Risky.ends_bind ((apply_ends hreg hsorted w).mono ?_)
    rintro r t w' - ⟨hacts, hok⟩
    rcases r with f | panic | vars
    · exact ⟨hacts, fun _ h => nomatch h⟩
    · exact ⟨hacts, fun _ h => nomatch h⟩
    · refine Act.ends_pure ?_
      rw [List.append_nil]
      exact ⟨hacts, fun _ _ => hok vars rfl⟩
  | application d hd force =>
    subst hd
    refine endOf_ends (x := d.run) ?_
    unfold AppDeploy.run
    refine Risky.ends_bind ((apply_ends hreg hsorted w).mono ?_)
    rintro r t w₁ - ⟨hacts, hok⟩
    rcases r with f | panic | vars
    · exact ⟨hacts, fun _ h => nomatch h⟩
    · exact ⟨hacts, fun _ h => nomatch h⟩
    · have hput := hok vars rfl
      dsimp only
      rw [Risky.bind_lift, Risky.bind_lift]
      refine Act.ends_bind (Act.ends_publish (Act.ends_bind ((settled_quiet d _).mono ?_)))
      rintro r t' w₂ - hquiet
      have hquiet : ∀ text, ∀ e ∈ [.status text] ++ t', e.Idle := by
        intro text e he
        rcases List.mem_append.mp he with he | he
        · rw [List.mem_singleton.mp he]
          exact ⟨rfl, not_starts_status _ _⟩
        · exact hquiet e he
      cases r with
      | error f => exact ⟨hacts.append (hquiet _), fun _ h => nomatch h⟩
      | ok app =>
        refine Act.ends_pure ?_
        rw [List.append_nil]
        exact ⟨hacts.append (hquiet _), fun _ _ => List.mem_append_left _ hput⟩

end PlanApply

end Rollout
