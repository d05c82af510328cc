import Mathlib.Data.List.Basic
import Rollout.Plan.Run

/-!
# Rollout.Proofs.Plan — what the run of a plan amounts to

A plan visits its steps in order.  A visit checks a step and runs its body if the check finds something to do, and the
first visit that fails is the last one, as is one whose body panics.  What is reported follows from the visits alone, and
after a panic nothing is reported.

* `Visit`, `Step.visit`: a visit to one step.
* `Plan.Visits`: the visits of a run, each in the world that the one before has left.
* `Plan.Told`: what a run tells of its visits.
* `Step.watched`: a step that keeps a journal of what is asked of it.
* `Plan.run_refines`: the run of any plan makes these visits, asks for nothing else, and reports them.
-/

namespace Rollout

/-- What a visit to a step has found: the outcome of the check, and that of the body if it was run. -/
structure Visit where
  check : Outcome
  body : Option Outcome

namespace Visit

/-- The outcome of the body, or of the check if the body was not run. -/
def outcome (v : Visit) : Outcome := v.body.getD v.check

def failed (v : Visit) : Bool := v.outcome.isFailed

/-- What is reported of the step. -/
def record {σ : Type} (v : Visit) (s : Step σ) : StepRecord := s.record v.body.isSome v.outcome

end Visit

namespace Step

variable {σ : Type}

/-- Checks the step, and runs its body if there is something to do. -/
def visit (s : Step σ) (w : World σ) : Except Panic Visit × World σ :=
  let (check, w) := s.check (w.note (.status s.description))
  if check.kind = .completed then
    let (r, w) := s.body w
    (r.map fun o => ⟨check, some o⟩, w)
  else (.ok ⟨check, none⟩, w)

/-- The visit to a step that has something to do. -/
theorem visit_of_completed {s : Step σ} {w w₁ : World σ} {check : Outcome}
    (h : s.check (w.note (.status s.description)) = (check, w₁)) (hkind : check.kind = .completed) :
    s.visit w = ((s.body w₁).1.map fun o => ⟨check, some o⟩, (s.body w₁).2) := by
  unfold visit
  rw [h]
  exact if_pos hkind

/-- The visit to a step that is skipped, or whose check fails. -/
theorem visit_of_not_completed {s : Step σ} {w w₁ : World σ} {check : Outcome}
    (h : s.check (w.note (.status s.description)) = (check, w₁)) (hkind : check.kind ≠ .completed) :
    s.visit w = (.ok ⟨check, none⟩, w₁) := by
  unfold visit
  rw [h]
  exact if_neg hkind

/-- A visit ends with the check, or it ends as the body does because the check has found something to do. -/
theorem visit_cases {s : Step σ} {r : Except Panic Visit} {w w' : World σ} (hvisit : s.visit w = (r, w')) :
    (∃ check, check.kind ≠ .completed ∧ r = .ok ⟨check, none⟩) ∨
      ∃ check w₁ fate, check.kind = .completed ∧ s.body w₁ = (fate, w') ∧ r = fate.map fun o => ⟨check, some o⟩ := by
  rcases hcheck : s.check (w.note (.status s.description)) with ⟨check, w₁⟩
  by_cases hkind : check.kind = .completed
  · rw [visit_of_completed hcheck hkind] at hvisit
    cases hvisit
    exact .inr ⟨check, w₁, _, hkind, rfl, rfl⟩
  · rw [visit_of_not_completed hcheck hkind] at hvisit
    cases hvisit
    exact .inl ⟨check, hkind, rfl⟩

/-- The body is run if and only if the check has found something to do. -/
theorem visit_body {s : Step σ} {v : Visit} {w w' : World σ} (hvisit : s.visit w = (.ok v, w')) :
    v.body.isSome ↔ v.check.kind = .completed := by
  rcases visit_cases hvisit with ⟨check, hkind, hv⟩ | ⟨check, _, _ | o, hkind, -, hv⟩
  · cases hv
    simpa using hkind
  · cases hv
  · cases hv
    simpa using hkind

/-- A visit that panics has found something to do, and it is the body that panics. -/
theorem visit_panic {s : Step σ} {p : Panic} {w w' : World σ} (hvisit : s.visit w = (.error p, w')) :
    ∃ w₁, s.body w₁ = (.error p, w') := by
  rcases visit_cases hvisit with ⟨_, -, hp⟩ | ⟨_, w₁, _ | _, -, hbody, hp⟩
  · cases hp
  · cases hp
    exact ⟨w₁, hbody⟩
  · cases hp

/-- What is told of a result: a fault is a failure. -/
def reported : Except Fault Outcome → Outcome
  | .ok o => o
  | .error f => .ofFault f

/-- What is told of a result that may be a panic, which is handed on. -/
def handedOn : Except Fault (Except Panic Outcome) → Except Panic Outcome
  | .ok r => r
  | .error f => .ok (.ofFault f)

theorem outcomeOf_apply (x : Act σ Outcome) (w : World σ) : outcomeOf x w = (reported (x w).1, (x w).2) := by
  unfold outcomeOf
  rcases x w with ⟨_ | o, w'⟩
  · rfl
  · rfl

theorem endOf_apply (x : Risky σ Outcome) (w : World σ) : endOf x w = (handedOn (x w).1, (x w).2) := by
  unfold endOf
  rcases x w with ⟨_ | r, w'⟩
  · rfl
  · rfl

theorem endOf_lift (x : Act σ Outcome) (w : World σ) :
    endOf (Risky.lift x) w = (.ok (reported (x w).1), (x w).2) := by
  unfold endOf Risky.lift Act.bind
  rcases x w with ⟨_ | o, w'⟩
  · rfl
  · rfl

end Step

namespace Plan

variable {σ : Type}

/-- The visits to the steps of a plan from one world to another: one step after the other, up to the first that fails or
panics. -/
inductive Visits : World σ → List (Step σ) → List Visit → Option Panic → World σ → Prop
  | nil (w : World σ) : Visits w [] [] none w
  | stop {w w' : World σ} {s : Step σ} {rest : List (Step σ)} {v : Visit} (hvisit : s.visit w = (.ok v, w'))
    (hfailed : v.failed = true) : Visits w (s :: rest) [v] none w'
  | panic {w w' : World σ} {s : Step σ} {rest : List (Step σ)} {p : Panic} (hvisit : s.visit w = (.error p, w')) :
    Visits w (s :: rest) [] (some p) w'
  | next {w w₁ w' : World σ} {s : Step σ} {rest : List (Step σ)} {v : Visit} {vs : List Visit} {fate : Option Panic}
    (hvisit : s.visit w = (.ok v, w₁)) (hpassed : v.failed = false) (hrest : Visits w₁ rest vs fate w') :
    Visits w (s :: rest) (v :: vs) fate w'

/-! ## What is reported -/

/-- The outcome of a run: that of the visit that failed, or else that of the body run last; `last` is the outcome of a
body run before. -/
def outcomeOf (last : Option Outcome) (vs : List Visit) : Outcome :=
  match vs.find? Visit.failed with
  | some v => v.outcome
  | none => ((vs.filterMap Visit.body).getLast?.or last).getD nothingToDo

theorem outcomeOf_stop (last : Option Outcome) {v : Visit} (h : v.failed = true) : outcomeOf last [v] = v.outcome := by
  simp [outcomeOf, h]

theorem outcomeOf_next (last : Option Outcome) {v : Visit} (h : v.failed = false) (vs : List Visit) :
    outcomeOf last (v :: vs) = outcomeOf (v.body.or last) vs := by
  unfold outcomeOf
  rw [List.find?_cons_of_neg (by simp [h])]
  cases hfind : vs.find? Visit.failed with
  | some v' => rfl
  | none =>
    cases hbody : v.body with
    | none => rw [List.filterMap_cons_none hbody, Option.none_or]
    | some o =>
      rw [List.filterMap_cons_some hbody, List.getLast?_cons]
      cases (vs.filterMap Visit.body).getLast? <;> rfl

/-- What comes after a visit: it is the last one if it fails or panics. -/
def afterVisit (last : Option Outcome) (s : Step σ) (rest : List (Step σ)) :
    Except Panic Visit → World σ → Except Panic (List StepRecord × Outcome) × World σ
  | .error p, w => (.error p, w)
  | .ok v, w =>
    if v.failed then (.ok ([v.record s], v.outcome), w)
    else
      let (r, w) := runSteps (v.body.or last) rest w
      (r.map fun ran => (v.record s :: ran.1, ran.2), w)

/-- One step of a run: the visit to the first step decides whether the others are reached. -/
theorem runSteps_cons (last : Option Outcome) (s : Step σ) (rest : List (Step σ)) (w : World σ) :
    runSteps last (s :: rest) w = afterVisit last s rest (s.visit w).1 (s.visit w).2 := by
  rw [runSteps]
  unfold Step.visit
  rcases s.check (w.note (.status s.description)) with ⟨⟨kind, message, payload⟩, w₁⟩
  cases kind with
  | completed =>
    rcases hbody : s.body w₁ with ⟨p | o, w₂⟩
    · simp only [hbody]
      rfl
    · simp only [hbody]
      rfl
  | skipped => simp [afterVisit, Visit.failed, Visit.outcome, Visit.record, Outcome.isFailed]
  | failed => simp [afterVisit, Visit.failed, Visit.outcome, Visit.record, Outcome.isFailed]

/-- Every plan has its visits. -/
theorem exists_visits (steps : List (Step σ)) (w : World σ) : ∃ vs fate w', Visits w steps vs fate w' := by
  induction steps generalizing w with
  | nil => exact ⟨[], none, w, .nil w⟩
  | cons s rest ih =>
    rcases hvisit : s.visit w with ⟨p | v, w₁⟩
    · exact ⟨[], some p, w₁, .panic hvisit⟩
    · cases hfailed : v.failed with
      | true => exact ⟨[v], none, w₁, .stop hvisit hfailed⟩
      | false =>
        obtain ⟨vs, fate, w', hvisits⟩ := ih w₁
        exact ⟨v :: vs, fate, w', .next hvisit hfailed hvisits⟩

/-- What a run ends with: after a panic there is nothing to tell. -/
def ending {α : Type} (a : α) : Option Panic → Except Panic α
  | none => .ok a
  | some p => .error p

theorem map_ending {α β : Type} (f : α → β) (a : α) (fate : Option Panic) :
    (ending a fate).map f = ending (f a) fate := by
  cases fate <;> rfl

namespace Visits

variable {w w' : World σ} {steps : List (Step σ)} {vs : List Visit} {fate : Option Panic}

/-- The run of the steps makes these visits and reports them. -/
theorem runSteps_eq (h : Visits w steps vs fate w') (last : Option Outcome) :
    runSteps last steps w = (ending (List.zipWith Visit.record vs steps, outcomeOf last vs) fate, w') := by
  induction h generalizing last with
  | nil w => rfl
  | stop hvisit hfailed =>
    rw [runSteps_cons, hvisit, outcomeOf_stop last hfailed]
    exact if_pos hfailed
  | panic hvisit =>
    rw [runSteps_cons, hvisit]
    rfl
  | next hvisit hpassed _ ih =>
    rw [runSteps_cons, hvisit, outcomeOf_next last hpassed]
    dsimp only [afterVisit]
    rw [if_neg (by simp [hpassed]), ih, map_ending]
    rfl

theorem run_eq (h : Visits w steps vs fate w') (name : String) :
    run name steps w = (ending ⟨name, List.zipWith Visit.record vs steps, outcomeOf none vs⟩ fate, w') := by
  unfold run
  rw [h.runSteps_eq]
  dsimp only
  rw [map_ending]

end Visits

/-- The run of a single step is one visit. -/
theorem run_single (name : String) {s : Step σ} {v : Visit} {w w' : World σ} (hvisit : s.visit w = (.ok v, w')) :
    run name [s] w = (.ok ⟨name, [v.record s], outcomeOf none [v]⟩, w') := by
  cases hfailed : v.failed with
  | true => exact (Visits.stop hvisit hfailed).run_eq name
  | false => exact (Visits.next hvisit hfailed (.nil w')).run_eq name

namespace Visits

variable {w w' : World σ} {steps : List (Step σ)} {vs : List Visit} {fate : Option Panic} {p : Panic}

/-- The steps reached are the first ones, all of them if no visit fails. -/
theorem length_le (h : Visits w steps vs fate w') : vs.length ≤ steps.length := by
  induction h with
  | nil w => exact Nat.le_refl _
  | stop _ _ => exact Nat.succ_le_succ (Nat.zero_le _)
  | panic _ => exact Nat.zero_le _
  | next _ _ _ ih => exact Nat.succ_le_succ ih

theorem length_eq (h : Visits w steps vs none w') (hpassed : ∀ v ∈ vs, v.failed = false) :
    vs.length = steps.length := by
  generalize hfate : (none : Option Panic) = fate at h
  induction h with
  | nil w => rfl
  | stop _ hfailed => exact absurd hfailed (by simp [hpassed])
  | panic _ => cases hfate
  | next _ _ _ ih => exact congrArg Nat.succ (ih (fun v hv => hpassed v (List.mem_cons_of_mem _ hv)) hfate)

/-- No visit fails but the last, and if the run panics none at all. -/
theorem passed (h : Visits w steps vs fate w') : ∀ v ∈ vs.dropLast, v.failed = false := by
  induction h with
  | nil w => exact fun v hv => nomatch hv
  | stop _ _ => exact fun v hv => nomatch hv
  | panic _ => exact fun v hv => nomatch hv
  | @next _ _ _ _ _ v vs _ _ hpassed _ ih =>
    intro v' hv'
    cases vs with
    | nil => cases hv'
    | cons v₁ vs =>
      rcases List.mem_cons.mp hv' with rfl | hv'
      · exact hpassed
      · exact ih v' hv'

/-- Where the run panics, it is the body of the next step that does, and no visit has failed. -/
theorem panicked (h : Visits w steps vs (some p) w') : (∀ v ∈ vs, v.failed = false) ∧
    ∃ s w₁, steps[vs.length]? = some s ∧ s.body w₁ = (.error p, w') := by
  generalize hfate : some p = fate at h
  induction h with
  | nil w => cases hfate
  | stop _ _ => cases hfate
  | panic hvisit =>
    cases hfate
    obtain ⟨w₁, hbody⟩ := Step.visit_panic hvisit
    exact ⟨fun v hv => (nomatch hv), _, w₁, rfl, hbody⟩
  | next _ hpassed _ ih =>
    obtain ⟨hothers, s, w₁, hstep, hbody⟩ := ih hfate
    refine ⟨fun v hv => ?_, s, w₁, by simpa using hstep, hbody⟩
    rcases List.mem_cons.mp hv with rfl | hv
    · exact hpassed
    · exact hothers v hv

/-- A body was run if and only if the check had found something to do. -/
theorem bodies (h : Visits w steps vs fate w') : ∀ v ∈ vs, v.body.isSome ↔ v.check.kind = .completed := by
  induction h with
  | nil w => exact fun v hv => nomatch hv
  | stop hvisit _ =>
    intro v' hv'
    obtain rfl := List.mem_singleton.mp hv'
    exact Step.visit_body hvisit
  | panic _ => exact fun v hv => nomatch hv
  | next hvisit _ _ ih =>
    intro v' hv'
    rcases List.mem_cons.mp hv' with rfl | hv'
    · exact Step.visit_body hvisit
    · exact ih v' hv'

/-- The outcomes on record are those of the visits. -/
theorem outcomes (h : Visits w steps vs fate w') :
    (List.zipWith Visit.record vs steps).map StepRecord.outcome = vs.map Visit.outcome := by
  have hlength := h.length_le
  rw [List.map_zipWith]
  clear h
  induction vs generalizing steps with
  | nil => rfl
  | cons v vs ih =>
    cases steps with
    | nil => exact absurd hlength (Nat.not_succ_le_zero _)
    | cons s rest => exact congrArg (v.outcome :: ·) (ih (Nat.le_of_succ_le_succ hlength))

end Visits

/-! ## What the outcome says -/

theorem outcomeOf_failed (last : Option Outcome) {vs : List Visit} (hbefore : ∀ v ∈ vs.dropLast, v.failed = false)
    {v : Visit} (hv : v ∈ vs) (hfailed : v.failed = true) : outcomeOf last vs = v.outcome := by
  induction vs generalizing last with
  | nil => cases hv
  | cons v₁ vs ih =>
    cases vs with
    | nil =>
      obtain rfl := List.mem_singleton.mp hv
      exact outcomeOf_stop last hfailed
    | cons v₂ vs =>
      have hpassed : v₁.failed = false := hbefore v₁ List.mem_cons_self
      rw [outcomeOf_next last hpassed]
      rcases List.mem_cons.mp hv with rfl | hv
      · exact absurd hfailed (by simp [hpassed])
      · exact ih _ (fun v hv => hbefore v (List.mem_cons_of_mem _ hv)) hv

theorem outcomeOf_passed (last : Option Outcome) {vs : List Visit} (hpassed : ∀ v ∈ vs, v.failed = false) :
    outcomeOf last vs = ((vs.filterMap Visit.body).getLast?.or last).getD nothingToDo := by
  unfold outcomeOf
  rw [List.find?_eq_none.mpr (by simpa using hpassed)]

/-- The outcome is a failure if and only if a visit has failed. -/
theorem isFailed_outcomeOf (vs : List Visit) : (outcomeOf none vs).isFailed = vs.any Visit.failed := by
  unfold outcomeOf
  cases hfind : vs.find? Visit.failed with
  | some v =>
    have hfailed : v.failed = true := List.find?_some hfind
    rw [List.any_eq_true.mpr ⟨v, List.mem_of_find?_eq_some hfind, hfailed⟩]
    exact hfailed
  | none =>
    have hpassed := List.find?_eq_none.mp hfind
    rw [List.any_eq_false.mpr hpassed, Option.or_none]
    cases hlast : (vs.filterMap Visit.body).getLast? with
    | none => rfl
    | some o =>
      obtain ⟨v, hv, hbody⟩ := List.mem_filterMap.mp (List.mem_of_getLast? hlast)
      have := hpassed v hv
      simpa [Visit.failed, Visit.outcome, hbody] using this

end Plan

/-! ## What is asked of the steps -/

/-- What is asked of a step, which is given by its place in the plan. -/
inductive StepCall
  | check (place : Nat)
  | body (place : Nat)

namespace World

variable {σ : Type}

/-- The world with a journal beside its host. -/
def watched (journal : List StepCall) (w : World σ) : World (σ × List StepCall) := { w with host := (w.host, journal) }

/-- The world without its journal. -/
def unwatched (w : World (σ × List StepCall)) : World σ := { w with host := w.host.1 }

end World

namespace Visit

/-- What is asked of a step by a visit: to check, and then to run its body if it was run. -/
def calls (place : Nat) (v : Visit) : List StepCall :=
  .check place :: if v.body.isSome then [.body place] else []

end Visit

namespace Step

variable {σ : Type}

/-- The step that enters what is asked of it in the journal. -/
def watched (place : Nat) (s : Step σ) : Step (σ × List StepCall) where
  name := s.name
  description := s.description
  check w :=
    let (o, after) := s.check w.unwatched
    (o, after.watched (w.host.2 ++ [.check place]))
  body w :=
    let (o, after) := s.body w.unwatched
    (o, after.watched (w.host.2 ++ [.body place]))

/-- What is asked of a step by a visit that may have panicked, which only a body does. -/
def calls (place : Nat) : Except Panic Visit → List StepCall
  | .ok v => v.calls place
  | .error _ => [.check place, .body place]

theorem visit_watched (place : Nat) (s : Step σ) (journal : List StepCall) (w : World σ) :
    (s.watched place).visit (w.watched journal) =
      ((s.visit w).1, (s.visit w).2.watched (journal ++ calls place (s.visit w).1)) := by
  have hchecked : (s.watched place).check ((w.watched journal).note (.status (s.watched place).description)) =
      ((s.check (w.note (.status s.description))).1,
        (s.check (w.note (.status s.description))).2.watched (journal ++ [.check place])) := rfl
  have hbody (w₁ : World σ) : (s.watched place).body (w₁.watched (journal ++ [.check place])) =
      ((s.body w₁).1, (s.body w₁).2.watched (journal ++ [.check place] ++ [.body place])) := rfl
  rcases hcheck : s.check (w.note (.status s.description)) with ⟨check, w₁⟩
  rw [hcheck] at hchecked
  by_cases hkind : check.kind = .completed
  · rw [visit_of_completed hchecked hkind, visit_of_completed hcheck hkind, hbody, List.append_assoc]
    rcases s.body w₁ with ⟨p | o, w₂⟩
    · rfl
    · rfl
  · rw [visit_of_not_completed hchecked hkind, visit_of_not_completed hcheck hkind]
    rfl

end Step

namespace Plan

variable {σ : Type}

/-- The steps of a plan from a place on, watched. -/
def watchedFrom (place : Nat) (steps : List (Step σ)) : List (Step (σ × List StepCall)) :=
  (steps.zipIdx place).map fun p => p.1.watched p.2

/-- What is asked of the steps from a place on: one visit after the other, and after them what a visit asks that
panics. -/
def callsFrom (place : Nat) : List Visit → Option Panic → List StepCall
  | [], none => []
  | [], some _ => [.check place, .body place]
  | v :: vs, fate => v.calls place ++ callsFrom (place + 1) vs fate

theorem records_watchedFrom (place : Nat) (vs : List Visit) (steps : List (Step σ)) :
    List.zipWith Visit.record vs (watchedFrom place steps) = List.zipWith Visit.record vs steps := by
  induction vs generalizing place steps with
  | nil => rfl
  | cons v vs ih =>
    cases steps with
    | nil => rfl
    | cons s rest => exact congrArg (v.record s :: ·) (ih (place + 1) rest)

/-- Steps that are watched are visited in the same way, and the journal has what the visits ask. -/
theorem Visits.watchedFrom {w w' : World σ} {steps : List (Step σ)} {vs : List Visit} {fate : Option Panic}
    (h : Visits w steps vs fate w') (place : Nat) (journal : List StepCall) :
    Visits (w.watched journal) (watchedFrom place steps) vs fate (w'.watched (journal ++ callsFrom place vs fate)) := by
  induction h generalizing place journal with
  | nil w =>
    have hnone : journal ++ callsFrom place [] none = journal := List.append_nil journal
    rw [hnone]
    exact .nil _
  | @stop w w' s rest v hvisit hfailed =>
    have hcalls : callsFrom place [v] none = v.calls place := List.append_nil _
    rw [hcalls]
    refine .stop ?_ hfailed
    rw [s.visit_watched, hvisit]
    rfl
  | @panic w w' s rest p hvisit =>
    refine .panic ?_
    rw [s.visit_watched, hvisit]
    rfl
  | @next w w₁ w' s rest v vs fate hvisit hpassed _ ih =>
    rw [callsFrom, ← List.append_assoc]
    refine .next ?_ hpassed (ih (place + 1) (journal ++ v.calls place))
    rw [s.visit_watched, hvisit]
    rfl

/-! ## The law of a run -/

/-- What the report of a run has to do with its visits. -/
structure Reports (name : String) (steps : List (Step σ)) (vs : List Visit) (r : PlanReport) : Prop where
  plan : r.plan = name
  /-- There is one record for each visit, in order. -/
  records : r.steps = List.zipWith Visit.record vs steps
  reached : vs.length ≤ steps.length
  /-- All steps are reached unless a visit fails, and that visit is the last. -/
  complete : (∀ v ∈ vs, v.failed = false) → vs.length = steps.length
  passed : ∀ v ∈ vs.dropLast, v.failed = false
  /-- A body was run if and only if the check had found something to do. -/
  ran : ∀ v ∈ vs, v.body.isSome ↔ v.check.kind = .completed
  failure : ∀ v ∈ vs, v.failed = true → r.outcome = v.outcome
  /-- Without a failure the outcome is that of the body run last. -/
  last : (∀ v ∈ vs, v.failed = false) → r.outcome = (vs.filterMap Visit.body).getLast?.getD nothingToDo
  success : r.success = true ↔ ∀ s ∈ r.steps, s.outcome.isFailed = false

theorem Visits.reports {w w' : World σ} {steps : List (Step σ)} {vs : List Visit} (h : Visits w steps vs none w')
    (name : String) : Reports name steps vs ⟨name, List.zipWith Visit.record vs steps, outcomeOf none vs⟩ where
  plan := rfl
  records := rfl
  reached := h.length_le
  complete := h.length_eq
  passed := h.passed
  ran := h.bodies
  failure _ hv hfailed := outcomeOf_failed none h.passed hv hfailed
  last hpassed := by rw [outcomeOf_passed none hpassed, Option.or_none]
  success := by
    have hall : (∀ s ∈ List.zipWith Visit.record vs steps, s.outcome.isFailed = false) ↔
        ∀ o ∈ vs.map Visit.outcome, o.isFailed = false := by
      rw [← h.outcomes, List.forall_mem_map]
    rw [PlanReport.success, isFailed_outcomeOf, hall, List.forall_mem_map, Bool.not_eq_true', List.any_eq_false]
    exact forall₂_congr fun v _ => Bool.not_eq_true v.failed ▸ Iff.rfl

/-- What a run tells of its visits: a report of all of them, or nothing if after them the body of the next step has
panicked. -/
inductive Told (name : String) (steps : List (Step σ)) (vs : List Visit) :
    Option Panic → Except Panic PlanReport → World σ → Prop
  | report {r : PlanReport} {w' : World σ} (hreports : Reports name steps vs r) : Told name steps vs none (.ok r) w'
  | panic {p : Panic} {s : Step σ} {w₁ w' : World σ} (hstep : steps[vs.length]? = some s)
    (hbody : s.body w₁ = (.error p, w')) (hpassed : ∀ v ∈ vs, v.failed = false)
    (hran : ∀ v ∈ vs, v.body.isSome ↔ v.check.kind = .completed) : Told name steps vs (some p) (.error p) w'

theorem Visits.told {w w' : World σ} {steps : List (Step σ)} {vs : List Visit} {fate : Option Panic}
    (h : Visits w steps vs fate w') (name : String) :
    Told name steps vs fate (ending ⟨name, List.zipWith Visit.record vs steps, outcomeOf none vs⟩ fate) w' := by
  cases fate with
  | none => exact .report (h.reports name)
  | some p =>
    obtain ⟨hpassed, s, w₁, hstep, hbody⟩ := h.panicked
    exact .panic hstep hbody hpassed h.bodies

/-- Whatever the steps of a plan do, its run makes visits to them, one after the other up to the first that fails or
panics; it asks nothing of any step but what these visits ask, and it tells of them in its report.  If no body panics it
always reports. -/
theorem run_refines (name : String) (steps : List (Step σ)) (w : World σ) :
    ∃ vs fate r w', Visits w steps vs fate w' ∧ run name steps w = (r, w') ∧ Told name steps vs fate r w' ∧
      (∀ journal, run name (watchedFrom 0 steps) (w.watched journal) =
        (r, w'.watched (journal ++ callsFrom 0 vs fate))) ∧
      ((∀ s ∈ steps, ∀ w p, (s.body w).1 ≠ .error p) → fate = none ∧ ∃ report, r = .ok report ∧
        Reports name steps vs report) := by
  obtain ⟨vs, fate, w', hvisits⟩ := exists_visits steps w
  refine ⟨vs, fate, _, w', hvisits, hvisits.run_eq name, hvisits.told name, fun journal => ?_, fun hcalm => ?_⟩
  · rw [(hvisits.watchedFrom 0 journal).run_eq name, records_watchedFrom]
  · cases fate with
    | none => exact ⟨rfl, _, rfl, hvisits.reports name⟩
    | some p =>
      obtain ⟨-, s, w₁, hstep, hbody⟩ := hvisits.panicked
      exact absurd (congrArg Prod.fst hbody) (hcalm s (List.mem_of_getElem? hstep) w₁ p)

end Plan

end Rollout
