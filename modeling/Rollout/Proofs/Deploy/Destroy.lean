import Rollout.Deploy.Deployment
import Rollout.Proofs.Plan
import Rollout.Proofs.Provisioner
import Rollout.Proofs.Table
import Rollout.Rehearsal

/-!
# Rollout.Proofs.Deploy.Destroy — when destroying a plan forgets its variables

Destroying has two effects, first on what the plan has brought about and then on its variables, and the check looks at
the first one only.  When the variables could not be removed after all else was destroyed, later runs find nothing to
destroy: they succeed, and the variables stay.

* `PlanDestroy.step_visit`: what one visit to the step does to the documents.
* `Deployment.destroyPlan_store`: what one run does to them.
* `Deployment.Destructions`: a history of runs, each of which may fail anywhere.
* `Deployment.destructions_store`: what is left of the documents after such a history.
-/

namespace Rollout

variable {σ : Type}

variable [Host σ]

/-! ## One run -/

namespace PlanDestroy

variable (d : PlanDestroy) {endpoint : Option String}

/-- The body forgets the variables when it succeeds, and otherwise no document is changed. -/
theorem run_ends (hreg : d.registry = .shared endpoint) (candid : Host.Candid σ) (w : World σ) :
    d.run.Ends w fun r _ w' => (r = .ok (.ok .completed) ∧ w'.store = w.store.erase d.key) ∨
      (∀ o, r ≠ .ok (.ok o)) ∧ w'.store = w.store := by
  have hdestroy : Act.Quiet (Retry.run d.retry d.provisioner.destroy : Risky σ Unit) :=
    (Retry.run_within d.provisioner.destroy_within d.retry).quiet fun _ => Event.Works.not_changes
  unfold run
  refine Risky.ends_bind ((hdestroy w).mono ?_)
  rintro r t w₁ hl hquiet
  have hstore : w₁.store = w.store := hl.store_eq hquiet
  rcases r with f | p | _
  · exact .inr ⟨fun _ h => (nomatch h), hstore⟩
  · exact .inr ⟨fun _ h => (nomatch h), hstore⟩
  · dsimp only
    rw [Risky.bind_lift]
    refine Act.ends_bind ((Registry.deleteIfPresent_ends hreg d.key w₁).mono ?_)
    rintro r t' w₂ hl' (⟨rfl, rfl⟩ | ⟨rfl, rfl, habsent⟩ | ⟨f, rfl, rfl, -⟩)
    · refine Act.ends_pure (.inl ⟨rfl, ?_⟩)
      rw [← hstore]
      exact hl'.store
    · refine Act.ends_pure (.inl ⟨rfl, ?_⟩)
      rw [← hstore, Table.erase_eq_self (habsent candid)]
      exact hl'.store
    · refine .inr ⟨fun _ h => (nomatch h), ?_⟩
      rw [← hstore]
      exact hl'.store

/-- There is something to do if and only if the state of the plan lists resources. -/
theorem step_check (w : World σ) : d.step.check w = match d.provisioner.hasResources w with
    | (.ok true, w') => (.completed, w')
    | (.ok false, w') => (Outcome.skipped.withMessage ("plan " ++ d.provisioner.plan ++ " holds no resources"), w')
    | (.error f, w') => (.ofFault f, w') := by
  have hcheck : d.step.check w = Step.outcomeOf d.check w := rfl
  rw [hcheck]
  unfold Step.outcomeOf check
  rw [Act.bind_apply]
  rcases d.provisioner.hasResources w with ⟨_ | listed, w'⟩
  · rfl
  · cases listed <;> rfl

/-- What a visit to the step does to the documents. -/
theorem step_visit (hreg : d.registry = .shared endpoint) (candid : Host.Candid σ) (w : World σ) :
    ((∀ v, (d.step.visit w).1 = .ok v → v.failed = true) ∧ (d.step.visit w).2.store = w.store) ∨
      ∃ v listed, (d.step.visit w).1 = .ok v ∧ v.failed = false ∧
        (d.provisioner.hasResources (w.note (.status (d.step (σ := σ)).description))).1 = .ok listed ∧
        v.body.isSome = listed ∧ (d.step.visit w).2.store = if listed then w.store.erase d.key else w.store := by
  have hquiet : (d.provisioner.hasResources : Act σ Bool).Quiet :=
    d.provisioner.hasResources_within.quiet fun _ hruns => (Provisioner.Runs.works _ hruns).not_changes
  have hpulled := hquiet.store_eq (w.note (.status (d.step (σ := σ)).description))
  have hcheck := d.step_check (w.note (.status (d.step (σ := σ)).description))
  generalize d.provisioner.hasResources (w.note (.status (d.step (σ := σ)).description)) = pulled at hpulled hcheck ⊢
  obtain ⟨f | listed, w₁⟩ := pulled
  · rw [Step.visit_of_not_completed hcheck (by simp [Outcome.ofFault, Outcome.failed])]
    refine .inl ⟨fun v hv => ?_, hpulled⟩
    cases hv
    rfl
  · cases listed with
    | false =>
      rw [Step.visit_of_not_completed hcheck (by simp [Outcome.withMessage, Outcome.skipped])]
      exact .inr ⟨_, false, rfl, rfl, rfl, rfl, hpulled⟩
    | true =>
      have hstore : w₁.store = w.store := hpulled
      have hbody : d.step.body w₁ = Step.endOf d.run w₁ := rfl
      obtain ⟨t, -, hrun⟩ := d.run_ends hreg candid w₁
      rw [Step.visit_of_completed hcheck rfl, hbody, Step.endOf_apply]
      rw [hstore] at hrun
      generalize d.run w₁ = ran at hrun
      obtain ⟨r, w₂⟩ := ran
      rcases hrun with ⟨rfl, hforgot⟩ | ⟨hnot, hkept⟩
      · exact .inr ⟨_, true, rfl, rfl, rfl, rfl, hforgot⟩
      · refine .inl ⟨fun v hv => ?_, ?_⟩
        · rcases r with f | p | o
          · cases hv
            rfl
          · cases hv
          · exact absurd rfl (hnot o)
        · exact hkept

end PlanDestroy

/-- A visit to the step that makes the directory ready runs its body, which does not panic, and changes no document. -/
theorem Provisioner.initStep_visit (p : Provisioner) (w : World σ) :
    ∃ o w', p.initStep.visit w = (.ok ⟨.completed, some o⟩, w') ∧ w'.store = w.store := by
  have hcheck : p.initStep.check (w.note (.status (p.initStep (σ := σ)).description)) = (.completed, _) := rfl
  have hbody : p.initStep.body =
      Step.endOf (Risky.lift (p.init >>= fun _ => Pure.pure Outcome.completed : Act σ Outcome)) := rfl
  rw [Step.visit_of_completed hcheck rfl, hbody, Step.endOf_lift]
  refine ⟨_, _, rfl, ?_⟩
  have hquiet : (p.init >>= fun _ => Pure.pure Outcome.completed : Act σ Outcome).Quiet :=
    (p.init_within.bind fun _ => within_pure _).quiet fun _ => Event.Works.not_changes
  exact hquiet.store_eq (w.note (.status (p.initStep (σ := σ)).description))

namespace Deployment

variable (d : Deployment) {endpoint : Option String}

/-- What destroying the plan `p` has done when it ends with `r`: a run that fails or panics changes no document.  One
that succeeds has found out whether the state of the plan lists resources; it forgets the variables of the plan if so,
and otherwise changes no document either. -/
def Destroys (p : Config.Plan) (w : World σ) (r : Except Panic PlanReport) (w' : World σ) : Prop :=
  ((∀ report, r = .ok report → report.success = false) ∧ w'.store = w.store) ∨
    ∃ report, r = .ok report ∧ report.success = true ∧ ∃ (pulled : World σ) (listed : Bool), pulled.store = w.store ∧
      ((d.provisionerOf p).hasResources pulled).1 = .ok listed ∧
      report.executed = (if listed then 2 else 1) ∧ w'.store = if listed then w.store.erase p.key else w.store

theorem destroyPlan_destroys (hreg : d.registry = .shared endpoint) (candid : Host.Candid σ) {name : String}
    {p : Config.Plan} (hplan : d.plan name = .ok p) (title : String) (w : World σ) :
    ∃ steps, d.destroyPlan name = .ok steps ∧
      d.Destroys p w (Plan.run title steps w).1 (Plan.run title steps w).2 := by
  let destroy : PlanDestroy := ⟨d.registry, d.provisionerOf p, p.key, d.config.retry⟩
  refine ⟨[(d.provisionerOf p).initStep, destroy.step], ?_, ?_⟩
  · unfold destroyPlan
    rw [hplan]
    rfl
  obtain ⟨vs, fate, w', hvisits⟩ := Plan.exists_visits [(d.provisionerOf p).initStep, destroy.step] w
  rw [hvisits.run_eq title]
  obtain ⟨o, w₁, hinitialised, hinit⟩ := (d.provisionerOf p).initStep_visit w
  cases hvisits with
  | panic hvisit => cases hinitialised.symm.trans hvisit
  | stop hvisit hfailed =>
    cases hinitialised.symm.trans hvisit
    refine .inl ⟨fun report hreport => ?_, hinit⟩
    cases hreport
    simp [PlanReport.success, Plan.isFailed_outcomeOf, hfailed]
  | next hvisit hpassed hrest =>
    cases hinitialised.symm.trans hvisit
    have hdestroy := destroy.step_visit hreg candid w₁
    rw [hinit] at hdestroy
    cases hrest with
    | panic hvisit' =>
      rw [hvisit'] at hdestroy
      refine .inl ⟨fun _ hreport => ?_, ?_⟩
      · cases hreport
      · rcases hdestroy with ⟨-, hkept⟩ | ⟨_, _, hpassed', -⟩
        · exact hkept
        · cases hpassed'
    | stop hvisit' hfailed =>
      rw [hvisit'] at hdestroy
      refine .inl ⟨fun report hreport => ?_, ?_⟩
      · cases hreport
        simp [PlanReport.success, Plan.isFailed_outcomeOf, hfailed]
      · rcases hdestroy with ⟨-, hkept⟩ | ⟨_, _, hv, hpassed', -⟩
        · exact hkept
        · cases hv
          exact absurd hfailed (by simp [hpassed'])
    | next hvisit' hpassed' hnone =>
      cases hnone
      rw [hvisit'] at hdestroy
      rcases hdestroy with ⟨hfailed, -⟩ | ⟨v, listed, hv, -, hlisted, hran, hleft⟩
      · exact absurd (hfailed _ rfl) (by simp [hpassed'])
      · cases hv
        refine .inr ⟨_, rfl, by simp [PlanReport.success, Plan.isFailed_outcomeOf, hpassed, hpassed'],
          w₁.note (.status (destroy.step (σ := σ)).description), listed, hinit, hlisted, ?_, hleft⟩
        cases listed <;> simp [PlanReport.executed, Visit.record, Step.record, hran]

/-! ## A history of runs -/

/-- The run has forgotten the variables of the plan: it has succeeded, and the bodies of both steps were run. -/
def forgot : Except Panic PlanReport → Bool
  | .ok r => r.success && r.executed == 2
  | .error _ => false

/-- Runs that destroy the plan of a name, one after the other; between two of them anything may change but the
documents. -/
inductive Destructions (name : String) : Table Json → List (Except Panic PlanReport) → Table Json → Prop
  | none (store : Table Json) : Destructions name store [] store
  | next {steps : List (Step σ)} (hsteps : d.destroyPlan name = .ok steps) (title : String) (w : World σ)
    {rs : List (Except Panic PlanReport)} {store : Table Json}
    (hrest : Destructions name (Plan.run title steps w).2.store rs store) :
    Destructions name w.store ((Plan.run title steps w).1 :: rs) store

/-- After any history of runs the variables of the plan are forgotten if one of the runs has forgotten them, and
otherwise all documents are as they were. -/
theorem destructions_store (hreg : d.registry = .shared endpoint) (candid : Host.Candid σ) {name : String}
    {p : Config.Plan} (hplan : d.plan name = .ok p) {store store' : Table Json} {rs : List (Except Panic PlanReport)}
    (h : d.Destructions (σ := σ) name store rs store') :
    store' = if rs.any forgot then store.erase p.key else store := by
  induction h with
  | none store => rfl
  | @next steps hsteps title w rs store' _ ih =>
    obtain ⟨steps', hsteps', hdestroys⟩ := d.destroyPlan_destroys hreg candid hplan title w
    obtain rfl : steps = steps' := Except.ok.inj (hsteps.symm.trans hsteps')
    rw [List.any_cons, ih]
    rcases hdestroys with ⟨hfailed, hkept⟩ | ⟨report, hreport, hsuccess, _, listed, -, -, hran, hleft⟩
    · have hforgot : forgot (Plan.run title steps w).1 = false := by
        generalize (Plan.run title steps w).1 = r at hfailed
        cases r with
        | error p => rfl
        | ok report => simp [forgot, hfailed report rfl]
      rw [hforgot, hkept, Bool.false_or]
    · have hforgot : forgot (Plan.run title steps w).1 = listed := by
        rw [hreport]
        cases listed <;> simp [forgot, hsuccess, hran]
      rw [hforgot, hleft]
      cases listed with
      | false => rfl
      | true =>
        rw [if_pos rfl, Table.erase_erase]
        exact ite_self _

/-- One plan whose variables are persisted in the shared store. -/
def single : Deployment :=
  ⟨{ Config.default with plans := [⟨"openstack-plan", "/", "TerraformVarsOpenstack", Bindings.empty, none⟩] },
    Manifest.empty, .shared none, .direct⟩

end Deployment

namespace Rehearsal

/-- The refusals of a rehearsal are failures of transport. -/
theorem candid : Host.Candid Rehearsal := by
  intro a r f h key
  have hcount : (r.count a).1 = some f := h
  unfold count at hcount
  dsimp only at hcount
  split at hcount
  · cases hcount
    simp
  · cases hcount

/-- The state of a plan lists resources the first time that it is pulled, and removals of documents are refused by
number. -/
def destroying (refused : List Nat) : World Rehearsal :=
  let listing : Reply := ⟨.output ⟨some 0, "\x7b\"resources\": [\x7b\x7d]\x7d", ""⟩, 0, some 1⟩
  let host := { empty with
    script := Table.empty.insert "terraform state" [listing]
    failing := Table.empty.insert "delete" refused }
  { World.start host "" FileTree.empty with
    store := Table.empty.insert "TerraformVarsOpenstack" (.obj [("region", .str "RegionOne")]) }

end Rehearsal

namespace Deployment

theorem destructions_store_single : single.registry = .shared none ∧ Host.Candid Rehearsal ∧
    ∃ (p : Config.Plan) (rs : List (Except Panic PlanReport)) (store : Table Json), single.plan "openstack-plan" = .ok p ∧
      single.Destructions (σ := Rehearsal) "openstack-plan" (Rehearsal.destroying []).store rs store ∧
      rs.map forgot = [true, false] ∧ store = (Rehearsal.destroying []).store.erase p.key := by
  -- The second run starts where the first has ended.
  have hhistory : single.Destructions "openstack-plan" (Rehearsal.destroying []).store _ _ :=
    .next rfl "destroy" (Rehearsal.destroying []) (.next rfl "destroy" _ (.none _))
  refine ⟨rfl, Rehearsal.candid, _, _, _, rfl, hhistory, by decide +kernel, ?_⟩
  refine (destructions_store single rfl Rehearsal.candid rfl hhistory).trans (if_pos ?_)
  decide +kernel

/-- When the removal of the variables is refused after all else was destroyed, the next run has nothing to destroy: it
succeeds, and the variables are still there. -/
theorem variables_stay : ∃ steps, single.destroyPlan "openstack-plan" = .ok steps ∧
    let first := Plan.run "destroy" steps (Rehearsal.destroying [1])
    let second := Plan.run "destroy" steps first.2
    first.1.map PlanReport.success = .ok false ∧ second.1.map PlanReport.success = .ok true ∧
      (second.2.store.get? "TerraformVarsOpenstack").isSome = true := by
  refine ⟨_, rfl, ?_⟩
  decide +kernel

end Deployment

end Rollout
