import Rollout.Deploy.Deployment
import Rollout.Proofs.Deploy.Destroy
import Rollout.Proofs.Provisioner
import Rollout.Proofs.Upgrade.Keys

/-!
# Rollout.Proofs.Deploy.Steps — what the steps of a deployment concern

Whatever is run of a deployment belongs to one of its plans or to the upgrade of its database, and the steps concern one
document: that of the owner's key.  A check looks, and asks for reports; only a body changes anything.

* `Procedure`: what can be run of a deployment, `Deployment.steps` the steps of it.
* `Deployment.Looks`: what a check may do.
* `Deployment.Minds`: a step that only looks when it is checked, and whose body concerns one document.
* `Deployment.steps_mind`: all steps are such.
* `Deployment.checks_look`: a check leaves everything as it is, and so does any number of checks before a body is run.
-/

namespace Rollout

/-- What can be run of a deployment. -/
inductive Procedure
  | deploy (name : String) (options : DeployOptions)
  | destroy (name : String)
  | upgrade (reset : Bool)

/-- The plan that a procedure belongs to; without a plan it belongs to the upgrade of the database. -/
def Procedure.owner : Procedure → Option String
  | deploy name _ => some name
  | destroy name => some name
  | upgrade _ => none

namespace Deployment

/-- The key of the document that belongs to a plan, or to the upgrade of the database. -/
def keyOf (d : Deployment) : Option String → Option String
  | some name => (d.config.plan? name).map (·.key)
  | none => some d.config.upgrade.stateKey

/-- A command that reports and does no more: one of the provisioner that prints the state of a plan, or one of the
orchestrator's tool that prints what is deployed or published. -/
def Reports (d : Deployment) (c : Command) : Prop :=
  (c.program = d.config.provisioner.binary ∧ c.args = ["state", "pull"]) ∨
    ∃ t verb, d.orchestrator = .tool t ∧ c.program = t.binary ∧ c.args.head? = some verb ∧
      verb ∈ ["status", "info", "show-unit"]

/-- What a check may do: look a document up, read files, ask the orchestrator, and start programs that only report. -/
def Looks (d : Deployment) (key : String) : Event → Prop
  | .access a _ => a = .get key
  | .file a => a.looks = true
  | .request r => r.method = .get
  | .call c => c.changes = false
  | .command c _ => d.Reports c
  | _ => False

variable {d : Deployment} {key : String} {e : Event}

theorem Looks.at (h : d.Looks key e) : e.At key := by
  cases e with
  | access a granted =>
    obtain rfl : a = .get key := h
    rfl
  | _ => trivial

theorem looks_of_gets (h : e.Gets key) : d.Looks key e := by
  cases e with
  | access a granted => exact h
  | file a => exact h
  | request r => exact h
  | _ => exact h.elim

theorem looks_of_runs {p : Config.Plan} (h : (d.provisionerOf p).Runs ["state", "pull"] e) : d.Looks key e := by
  obtain ⟨c, files, rfl, hprogram, hargs⟩ := h
  exact .inl ⟨hprogram, hargs⟩

theorem looks_of_asks (h : d.orchestrator.Asks e) : d.Looks key e := by
  obtain ⟨c, hc, rfl | ⟨t, htool, cmd, files, rfl, hprogram, hverb⟩⟩ := h
  · exact hc
  · refine .inr ⟨t, c.verb, htool, hprogram, hverb, ?_⟩
    cases c with
    | action unit name params => cases hc
    | scale name units => cases hc
    | refresh name => cases hc
    | _ => simp [Call.verb]

end Deployment

/-! ## Steps -/

variable {σ : Type}

theorem Step.outcomeOf_within {E : Event → Prop} {x : Act σ Outcome} (h : Within E x) :
    Within E (Step.outcomeOf x) := by
  rw [funext (Step.outcomeOf_apply x)]
  exact h.map Step.reported

theorem Step.endOf_within {E : Event → Prop} {x : Risky σ Outcome} (h : Within E x) : Within E (Step.endOf x) := by
  rw [funext (Step.endOf_apply x)]
  exact h.map Step.handedOn

theorem Step.always_within {E : Event → Prop} : Within E (Step.always : World σ → Outcome × World σ) := within_idle _

variable [Host σ]

namespace PlanApply

variable (p : PlanApply)

theorem isCurrent_within : Within (Event.Gets p.key) (p.isCurrent : Act σ Bool) := by
  unfold isCurrent
  refine (p.registry.read_within p.key _).bind fun persisted => ?_
  split
  · exact within_pure _
  · exact (Variables.intended_within p.registry p.key p.desired).bind fun _ => within_pure _

theorem apply_within : Within (Event.At p.key) (p.apply : Risky σ Variables) := by
  unfold apply
  have hintended := (Variables.intended_within (σ := σ) p.registry p.key p.desired).mono fun _ => Event.Gets.at
  refine hintended.risky_lift.risky_bind fun vars => (within_publish trivial).risky_lift.risky_bind fun _ => ?_
  have happly := (p.provisioner.apply_within (σ := σ) vars []).mono fun _ he => he.at p.key
  refine (Retry.run_within happly p.retry).risky_bind fun _ => ?_
  exact (Variables.persist_within p.registry p.key vars).risky_lift.risky_bind fun _ => within_pure _

theorem check_within : Within (Event.Gets p.key) (p.check : Act σ Outcome) := by
  unfold check
  refine p.isCurrent_within.bind fun current => ?_
  split
  · exact within_pure _
  · exact within_pure _

theorem run_within : Within (Event.At p.key) (p.run : Risky σ Outcome) :=
  p.apply_within.risky_bind fun _ => within_pure _

end PlanApply

namespace AppDeploy

variable (a : AppDeploy)

theorem check_within :
    Within (fun e => e.Gets a.apply.key ∨ a.orchestrator.Asks e) (a.check : Act σ Outcome) := by
  unfold check
  refine (a.apply.isCurrent_within.mono fun _ => .inl).bind fun current => ?_
  split
  · refine ((a.orchestrator.asks_within _ rfl).mono fun _ => .inr).bind fun app => ?_
    split
    · exact within_pure _
    · exact within_pure _
  · exact within_pure _

theorem run_within : Within (Event.At a.apply.key) (a.run : Risky σ Outcome) := by
  unfold run
  refine a.apply.apply_within.risky_bind fun _ => (within_publish trivial).risky_lift.risky_bind fun _ => ?_
  have hsettled := (a.wait.settled_within (σ := σ) a.orchestrator a.application a.accepted).mono
    fun _ he => he.at a.apply.key
  exact hsettled.risky_lift.risky_bind fun _ => within_pure _

end AppDeploy

namespace PlanDestroy

variable (p : PlanDestroy)

theorem check_within : Within (p.provisioner.Runs ["state", "pull"]) (p.check : Act σ Outcome) := by
  unfold check
  refine p.provisioner.hasResources_within.bind fun listed => ?_
  split
  · exact within_pure _
  · exact within_pure _

theorem run_within : Within (Event.At p.key) (p.run : Risky σ Outcome) := by
  unfold run
  have hdestroy := (p.provisioner.destroy_within (σ := σ)).mono fun _ he => he.at p.key
  refine (Retry.run_within hdestroy p.retry).risky_bind fun _ => ?_
  exact (p.registry.deleteIfPresent_within p.key).risky_lift.risky_bind fun _ => within_pure _

end PlanDestroy

/-! ## The steps of a deployment -/

namespace Deployment

variable (d : Deployment)

/-- A step that only looks when it is checked, and whose body accesses the document of one key. -/
structure Minds (key : String) (s : Step σ) : Prop where
  check : Within (d.Looks key) s.check
  body : Within (Event.At key) s.body

/-- The steps of a procedure. -/
def steps : Procedure → Except Fault (List (Step σ))
  | .deploy name options => d.deployPlan name options
  | .destroy name => d.destroyPlan name
  | .upgrade reset => d.upgradePlan reset

theorem initStep_minds (p : Config.Plan) (key : String) : d.Minds key ((d.provisionerOf p).initStep : Step σ) where
  check := Step.always_within
  body := Step.endOf_within
    (((d.provisionerOf p).init_within.mono fun _ he => he.at key).bind fun _ => within_pure _).risky_lift

theorem bringAbout_minds (p : Config.Plan) (options : DeployOptions) : d.Minds p.key (d.bringAbout p options : Step σ) := by
  unfold bringAbout
  dsimp only
  split
  · rename_i application _
    let deploy : AppDeploy :=
      ⟨d.planApply p options, d.orchestrator, application, d.config.orchestrator.acceptedStatuses, d.wait⟩
    refine ⟨?_, Step.endOf_within deploy.run_within⟩
    unfold AppDeploy.step
    dsimp only
    split
    · exact Step.always_within
    · refine Step.outcomeOf_within (deploy.check_within.mono ?_)
      rintro e (hgets | hasks)
      · exact looks_of_gets hgets
      · exact looks_of_asks hasks
  · refine ⟨?_, Step.endOf_within (d.planApply p options).run_within⟩
    unfold PlanApply.step
    dsimp only
    split
    · exact Step.always_within
    · exact Step.outcomeOf_within ((d.planApply p options).check_within.mono fun _ => looks_of_gets)

theorem destroyStep_minds (p : Config.Plan) :
    d.Minds p.key (PlanDestroy.step ⟨d.registry, d.provisionerOf p, p.key, d.config.retry⟩ : Step σ) where
  check := Step.outcomeOf_within ((PlanDestroy.check_within _).mono fun _ => looks_of_runs)
  body := Step.endOf_within (PlanDestroy.run_within ⟨d.registry, d.provisionerOf p, p.key, d.config.retry⟩)

theorem resetStep_minds : d.Minds d.config.upgrade.stateKey (d.resetStep : Step σ) where
  check := Step.always_within
  body := Step.endOf_within ((d.registry.deleteIfPresent_within _).bind fun _ => within_pure _).risky_lift

theorem upgradeStep_minds {u : DatabaseUpgrade} (hu : d.databaseUpgrade = .ok u) :
    d.Minds d.config.upgrade.stateKey (u.step : Step σ) := by
  unfold databaseUpgrade at hu
  split at hu
  · rename_i ranks _
    cases hu
    let u : DatabaseUpgrade := ⟨d.orchestrator, d.registry, d.manifest, d.config.upgrade, d.wait.delay, ranks⟩
    refine ⟨Step.outcomeOf_within (u.eligible_within.mono ?_), Step.endOf_within u.upgrade_within.risky_lift⟩
    rintro e (hgets | hasks)
    · exact looks_of_gets hgets
    · exact looks_of_asks hasks
  · cases hu

theorem plan_eq_ok {name : String} {p : Config.Plan} (h : d.plan name = .ok p) : d.config.plan? name = some p := by
  unfold plan at h
  split at h
  · rename_i p' hfound
    cases h
    exact hfound
  · cases h

/-- The steps of a procedure all concern the document of its owner. -/
theorem steps_mind {q : Procedure} {steps : List (Step σ)} (hsteps : d.steps q = .ok steps) :
    ∃ key, d.keyOf q.owner = some key ∧ ∀ s ∈ steps, d.Minds key s := by
  cases q with
  | deploy name options =>
    have hdeploy : d.deployPlan name options = .ok steps := hsteps
    unfold deployPlan at hdeploy
    cases hplan : d.plan name with
    | error f =>
      rw [hplan] at hdeploy
      cases hdeploy
    | ok p =>
      rw [hplan] at hdeploy
      cases hdeploy
      refine ⟨p.key, by simp [keyOf, Procedure.owner, d.plan_eq_ok hplan], ?_⟩
      simp only [List.forall_mem_cons]
      exact ⟨d.initStep_minds p p.key, d.bringAbout_minds p options, fun _ hnone => nomatch hnone⟩
  | destroy name =>
    have hdestroy : d.destroyPlan name = .ok steps := hsteps
    unfold destroyPlan at hdestroy
    cases hplan : d.plan name with
    | error f =>
      rw [hplan] at hdestroy
      cases hdestroy
    | ok p =>
      rw [hplan] at hdestroy
      cases hdestroy
      refine ⟨p.key, by simp [keyOf, Procedure.owner, d.plan_eq_ok hplan], ?_⟩
      simp only [List.forall_mem_cons]
      exact ⟨d.initStep_minds p p.key, d.destroyStep_minds p, fun _ hnone => nomatch hnone⟩
  | upgrade reset =>
    have hupgrade : d.upgradePlan reset = .ok steps := hsteps
    unfold upgradePlan at hupgrade
    cases hu : d.databaseUpgrade with
    | error f =>
      rw [hu] at hupgrade
      cases hupgrade
    | ok u =>
      rw [hu] at hupgrade
      cases hupgrade
      refine ⟨d.config.upgrade.stateKey, rfl, ?_⟩
      cases reset with
      | false =>
        simp only [Bool.false_eq_true, if_false, List.nil_append, List.forall_mem_cons]
        exact ⟨d.upgradeStep_minds hu, fun _ hnone => nomatch hnone⟩
      | true =>
        simp only [if_true, List.cons_append, List.nil_append, List.forall_mem_cons]
        exact ⟨d.resetStep_minds, d.upgradeStep_minds hu, fun _ hnone => nomatch hnone⟩

end Deployment

/-! ## Checks -/

/-- The world with another state of its host, and at another time. -/
def World.facing (host : σ) (now : Span) (w : World σ) : World σ := { w with host, now }

/-- From two worlds `x` does the same: it ends with the same outcome, documents and files. -/
structure Alike {α : Type} (x : World σ → α × World σ) (w w' : World σ) : Prop where
  outcome : (x w').1 = (x w).1
  done : (x w').2.since w' = (x w).2.since w
  store : (x w').2.store = (x w).2.store
  files : (x w').2.files = (x w).2.files

/-- The world after a number of checks of a step. -/
def Step.checked (s : Step σ) : Nat → World σ → World σ
  | 0, w => w
  | n + 1, w => s.checked n (s.check w).2

namespace Deployment

variable {d : Deployment} {key : String} {s : Step σ} {w w' : World σ}

omit [Host σ] in
theorem Minds.checked (h : d.Minds key s) (n : ℕ) (w : World σ) : w.Becomes (d.Looks key) (s.checked n w) := by
  induction n generalizing w with
  | zero => exact .refl w
  | succ n ih => exact (h.check.becomes w).trans (ih _)

omit [Host σ] in
theorem store_of_looks (h : w.Becomes (d.Looks key) w') : w'.store = w.store := by
  refine h.store_eq fun a ha => ?_
  obtain rfl : a = .get key := ha
  rfl

omit [Host σ] in
theorem files_of_looks (h : w.Becomes (d.Looks key) w') : w'.files = w.files := h.files fun _ ha => ha

omit [Host σ] in
/-- To look changes the state of the host, the time and the log only. -/
theorem facing_of_looks (h : w.Becomes (d.Looks key) w') (host : σ) (now : Span) :
    w'.facing host now = ({ w.facing host now with log := [] } : World σ).amid w'.log w.store := by
  have hstore := store_of_looks h
  have hfiles := files_of_looks h
  obtain ⟨-, -, -, -, hstarted, hzone, hholder, hhere, henv, hinput⟩ := h
  obtain ⟨host', now', started', zone', holder', here', files', store', env', input', log'⟩ := w'
  subst hstarted hzone hholder hhere henv hinput hstore hfiles
  rfl

variable (d) in
/-- A check looks, and it leaves all documents and files as they are.  After any number of checks a body that finds the
same host at the same time does the same as without them. -/
theorem checks_look {q : Procedure} {steps : List (Step σ)} (hsteps : d.steps q = .ok steps) {s : Step σ}
    (hs : s ∈ steps) : ∃ key, d.keyOf q.owner = some key ∧
      (∀ w : World σ, (∀ e ∈ (s.check w).2.since w, d.Looks key e) ∧ (s.check w).2.store = w.store ∧
        (s.check w).2.files = w.files) ∧
      ∀ n w host now, Alike s.body (w.facing host now) ((s.checked n w).facing host now) := by
  obtain ⟨key, hkey, hminds⟩ := d.steps_mind hsteps
  have hmind := hminds s hs
  refine ⟨key, hkey, fun w => ?_, fun n w host now => ?_⟩
  · have hcheck := hmind.check.becomes w
    exact ⟨hcheck.since, store_of_looks hcheck, files_of_looks hcheck⟩
  · -- Both runs of the body begin in the same world but for its log.
    let begun : World σ := { w.facing host now with log := [] }
    have hchecked : (s.checked n w).facing host now = begun.amid (s.checked n w).log begun.store :=
      facing_of_looks (hmind.checked n w) host now
    have hplain : w.facing host now = begun.amid w.log begun.store := facing_of_looks (hmind.checked 0 w) host now
    have hbody := hmind.body.becomes begun
    have hblind := hmind.body.blind_log begun
    rw [hchecked, hplain]
    constructor
    · rw [hblind, hblind]
    · rw [hblind, hblind, hbody.since_amid, hbody.since_amid]
    · rw [hblind, hblind]
      rfl
    · rw [hblind, hblind]
      rfl

/-- The check before a plan is destroyed pulls the state of the plan, and that is all. -/
theorem checks_look_single : ∃ (steps : List (Step Rehearsal)) (s : Step Rehearsal) (key : String) (w : World Rehearsal),
    single.steps (.destroy "openstack-plan") = .ok steps ∧ s ∈ steps ∧ single.keyOf (some "openstack-plan") = some key ∧
      ((s.check w).2.since w).length = 1 ∧ (∀ e ∈ (s.check w).2.since w, single.Looks key e) ∧
      Alike s.body (w.facing w.host 0) ((s.checked 2 w).facing w.host 0) := by
  let p : Config.Plan := ⟨"openstack-plan", "/", "TerraformVarsOpenstack", Bindings.empty, none⟩
  let destroy : Step Rehearsal := PlanDestroy.step ⟨single.registry, single.provisionerOf p, p.key, single.config.retry⟩
  have hsteps : single.steps (.destroy "openstack-plan") = .ok [(single.provisionerOf p).initStep, destroy] := rfl
  have hs : destroy ∈ [(single.provisionerOf p).initStep, destroy] := List.mem_cons_of_mem _ List.mem_cons_self
  obtain ⟨key, hkey, hlooks, hbody⟩ := single.checks_look hsteps hs
  have hpulled : ((destroy.check (Rehearsal.destroying [])).2.since (Rehearsal.destroying [])).length = 1 := by
    decide +kernel
  have hlooked := (hlooks (Rehearsal.destroying [])).1
  have halike := hbody 2 (Rehearsal.destroying []) (Rehearsal.destroying []).host 0
  exact ⟨_, destroy, key, Rehearsal.destroying [], hsteps, hs, hkey, hpulled, hlooked, halike⟩

end Deployment

end Rollout
