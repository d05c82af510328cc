import Rollout.Proofs.Deploy.Apply
import Rollout.Proofs.Obliging
import Rollout.Proofs.Variables.Sources

/-!
# Rollout.Proofs.Deploy.Settled — nothing is left to do after a step that completed

The variables that a step has applied are those that would be computed next, so once it has completed its check finds
nothing to do, for as long as the registry keeps them and the application stays as it is.

* `PlanApply.isCurrent_ends`: variables that merging leaves as they are need not be applied.
* `PlanApply.Settles`, `PlanApply.completed_settles`: a step that completed has nothing left to do.
-/

namespace Rollout

variable {σ τ : Type} [Host σ] [Host τ]

/-- The host lets the document of a key be read. -/
def Host.Grants (σ : Type) [Host σ] (key : String) : Prop := ∀ s : σ, (Host.refuse (.get key) s).1 = none

namespace PlanApply

variable {p : PlanApply} {endpoint : Option String}

/-- Variables that are persisted and that merging leaves as they are need not be applied. -/
theorem isCurrent_ends (hreg : p.registry = .shared endpoint) (hgrants : Host.Grants σ p.key) {vars : Variables}
    (hsorted : vars.All Json.sorted) (hfixed : p.desired.over vars = vars) {w : World σ}
    (hentry : w.store.get? p.key = some (.ofTable vars)) : p.isCurrent.Ends w fun r _ _ => r = .ok true := by
  unfold isCurrent intended
  refine Act.ends_bind ((Variables.read_ends hreg p.key w).mono ?_)
  rintro r t w₁ hl ⟨⟨granted, rfl⟩, hvalue, hgranted⟩
  obtain ⟨found, rfl⟩ := hgranted (hgrants _) ⟨_, hentry⟩
  have hfound : found = some vars := by
    rw [hvalue found rfl, hentry, Option.map_some, Variables.ofEntry_ofTable hsorted]
  subst hfound
  have hentry₁ : w₁.store.get? p.key = some (.ofTable vars) := by
    rw [hl.store]
    exact hentry
  refine Act.ends_bind ((Variables.reconcile_ends hreg p.key w₁ p.desired).mono ?_)
  rintro r t w₂ - ⟨-, hvalue, hgranted⟩
  obtain ⟨again, rfl⟩ := hgranted (hgrants _) ⟨_, hentry₁⟩
  have hagain : again = vars := by
    rw [hvalue again rfl, hentry₁, Variables.ofEntry_ofTable hsorted, hfixed]
  subst hagain
  refine Act.ends_pure ?_
  rw [Table.same_self]

/-- What a step that completed leaves: variables that are persisted, and that merging leaves as they are. -/
theorem Deploys.entry_of_completed {step : Step σ} (h : p.Deploys step) (hreg : p.registry = .shared endpoint)
    (hsorted : p.desired.Sorted) {w : World σ} (hkind : (step.body w).1.map Outcome.kind = .ok .completed) :
    ∃ vars : Variables, vars.All Json.sorted ∧ p.desired.over vars = vars ∧
      (step.body w).2.store.get? p.key = some (.ofTable vars) := by
  obtain ⟨t, hl, hacts, hcompleted⟩ := h.ends hreg hsorted w
  refine ⟨p.due w.store, due_sorted hsorted _, hsorted.over_over _, ?_⟩
  rw [hl.store, (replay_of_only hacts.only _).2 (hcompleted hkind)]
  exact Table.get?_insert_self _ _ _

/-- Merging leaves what was merged as it is, and after a step that completed there is nothing to do: not for the step
that applies the plan, and not for one that deploys its application while that has an accepted status and its units
have.  The runs are of hosts of one kind, and the checks may be of hosts of another. -/
structure Settles (p : PlanApply) (σ τ : Type) [Host σ] [Host τ] : Prop where
  merged : ∀ vars, p.desired.over (p.desired.over vars) = p.desired.over vars
  apply : ∀ (w : World σ) (w' : World τ),
    ((p.step false).body w).1.map Outcome.kind = .ok .completed → Host.Grants τ p.key →
    w'.store.get? p.key = ((p.step false).body w).2.store.get? p.key → ((p.step false).check w').1.kind = .skipped
  application : ∀ (d : AppDeploy), d.apply = p → ∀ (w : World σ) (w' : World τ) (app : Application),
    ((d.step false).body w).1.map Outcome.kind = .ok .completed → Host.Grants τ p.key →
    w'.store.get? p.key = ((d.step false).body w).2.store.get? p.key →
    (d.orchestrator.ask (.application d.application) (d.apply.isCurrent w').2).1 = .ok (some app) →
    app.status ∈ d.accepted → (∀ u ∈ app.units.values, u.workload ∈ d.accepted) →
    ((d.step false).check w').1.kind = .skipped

/-- A step that completed has nothing left to do. -/
theorem completed_settles (hreg : p.registry = .shared endpoint) (hsorted : p.desired.Sorted) : p.Settles σ τ := by
  constructor
  case merged => exact hsorted.over_over
  case apply =>
    intro w w' hkind hgrants hentry
    obtain ⟨vars, hvars, hfixed, hkept⟩ := (Deploys.apply false).entry_of_completed hreg hsorted hkind
    obtain ⟨t, -, hcurrent⟩ := isCurrent_ends hreg hgrants hvars hfixed (hentry.trans hkept)
    show (Step.outcomeOf p.check w').1.kind = .skipped
    unfold Step.outcomeOf check
    rw [Act.bind_apply]
    generalize p.isCurrent w' = y at hcurrent
    obtain ⟨r, w₁⟩ := y
    cases hcurrent
    rfl
  case application =>
    rintro d rfl w w' app hkind hgrants hentry happ hstatus hunits
    obtain ⟨vars, hvars, hfixed, hkept⟩ := (Deploys.application d rfl false).entry_of_completed hreg hsorted hkind
    obtain ⟨t, -, hcurrent⟩ := isCurrent_ends hreg hgrants hvars hfixed (hentry.trans hkept)
    have hsettled : app.settled d.accepted = true := by
      unfold Application.settled
      simpa [hstatus] using hunits
    show (Step.outcomeOf d.check w').1.kind = .skipped
    unfold Step.outcomeOf AppDeploy.check
    rw [Act.bind_apply]
    generalize d.apply.isCurrent w' = y at hcurrent happ
    obtain ⟨r, w₁⟩ := y
    cases hcurrent
    dsimp only at happ ⊢
    rw [if_pos rfl, Act.bind_apply]
    generalize d.orchestrator.ask (.application d.application) w₁ = y at happ
    obtain ⟨r, w₂⟩ := y
    cases happ
    have hany : (some app).any (fun a : Application => a.settled d.accepted) = true := hsettled
    dsimp only
    rw [if_pos hany]
    rfl

/-- A plan at the root of the files, with one variable from the manifest and one from the operator. -/
def small : PlanApply :=
  ⟨.shared none, .forPlan "openstack-plan" "/", "TerraformVarsOpenstack",
    ⟨Bindings.empty.bind "keystone-k8s" "channel" "keystone-channel",
      Manifest.empty.withCore "keystone-k8s" ⟨some "2024.1/stable", none, none, Table.empty⟩,
      some (Table.empty.insert "region" (.obj [("name", .str "RegionOne")])), none⟩, .default⟩

/-- The application that the plan deploys. -/
def smallApp : AppDeploy := ⟨small, .direct, "keystone", ["active"], ⟨Span.ofSeconds 10, Span.ofSeconds 600⟩⟩

theorem small_sorted : small.desired.Sorted := by
  refine Variables.Desired.sorted_of_manifest (Manifest.sorted_empty.withCore _ ⟨?_, Table.all_empty⟩) ?_
  · intro t ht
    cases ht
  · intro o ho
    cases ho
    exact Table.all_empty.insert _ ⟨List.pairwise_singleton _ _, trivial, trivial⟩

theorem completed_settles_small : small.registry = .shared none ∧ small.desired.Sorted ∧
    ((small.step false).body (Obliging.world "keystone")).1.map Outcome.kind = .ok .completed ∧
    ((small.step false).check ((small.step false).body (Obliging.world "keystone")).2).1.kind = .skipped ∧
    ((smallApp.step false).body (Obliging.world "keystone")).1.map Outcome.kind = .ok .completed ∧
    ((smallApp.step false).check ((smallApp.step false).body (Obliging.world "keystone")).2).1.kind = .skipped := by
  have happly : ((small.step false).body (Obliging.world "keystone")).1.map Outcome.kind = .ok .completed := by
    decide +kernel
  have hdeploy : ((smallApp.step false).body (Obliging.world "keystone")).1.map Outcome.kind = .ok .completed := by
    decide +kernel
  have hgrants : Host.Grants Obliging small.key := fun _ => rfl
  have hsettles : small.Settles Obliging Obliging := completed_settles rfl small_sorted
  refine ⟨rfl, small_sorted, happly, ?_, hdeploy, ?_⟩
  · exact hsettles.apply (Obliging.world "keystone") _ happly hgrants rfl
  · have hask : ∀ w : World Obliging, (smallApp.orchestrator.ask (.application smallApp.application) w).1 =
        .ok (some w.host.application) := fun _ => rfl
    exact hsettles.application smallApp rfl (Obliging.world "keystone") _ _ hdeploy hgrants rfl (hask _)
      (by decide +kernel) (by decide +kernel)

end PlanApply

end Rollout
