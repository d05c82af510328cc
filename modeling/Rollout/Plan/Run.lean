import Rollout.Plan.Report
import Rollout.World.Risky

/-!
# Rollout.Plan.Run — running the steps of a plan

A step first checks whether there is anything to do, and then does it.  A plan runs its steps in order: a step whose
check says so is skipped, and the first failure, of a check or of a body, ends the run.  A body that panics ends the run
as well, and then nothing is reported.

* `Step`: a check and a body, each of which may change the world.
* `Plan.run`: the run of a plan, with a record for each step reached.
-/

namespace Rollout

/-- A step of a plan. -/
structure Step (σ : Type) where
  name : String
  description : String
  /-- Completed when there is something to do, skipped when there is not. -/
  check : World σ → Outcome × World σ
  body : World σ → Except Panic Outcome × World σ

namespace Step

variable {σ : Type}

/-- The outcome of an action; a fault is a failure. -/
def outcomeOf (x : Act σ Outcome) : World σ → Outcome × World σ := fun w =>
  match x w with
  | (.ok o, w) => (o, w)
  | (.error e, w) => (.ofFault e, w)

/-- How an action ends that may panic; a fault is a failure, but a panic is not. -/
def endOf (x : Risky σ Outcome) : World σ → Except Panic Outcome × World σ := fun w =>
  match x w with
  | (.ok r, w) => (r, w)
  | (.error e, w) => (.ok (.ofFault e), w)

/-- The check of a step that always has something to do. -/
def always : World σ → Outcome × World σ := fun w => (.completed, w)

/-- What became of the step. -/
def record (s : Step σ) (ran : Bool) (o : Outcome) : StepRecord := ⟨s.name, s.description, ran, o⟩

end Step

namespace Plan

variable {σ : Type}

/-- The outcome of a run in which no body was run. -/
def nothingToDo : Outcome := Outcome.skipped.withMessage "nothing to do"

/-- Runs steps and gives their records and the outcome of the whole; `last` is the outcome of the body run last. -/
def runSteps (last : Option Outcome) : List (Step σ) → World σ → Except Panic (List StepRecord × Outcome) × World σ
  | [], w => (.ok ([], last.getD nothingToDo), w)
  | s :: rest, w =>
    let (check, w) := s.check (w.note (.status s.description))
    match check.kind with
    | .skipped =>
      let (r, w) := runSteps last rest w
      (r.map fun ran => (s.record false check :: ran.1, ran.2), w)
    | .failed => (.ok ([s.record false check], check), w)
    | .completed =>
      match s.body w with
      | (.error p, w) => (.error p, w)
      | (.ok o, w) =>
        if o.isFailed then (.ok ([s.record true o], o), w)
        else
          let (r, w) := runSteps (some o) rest w
          (r.map fun ran => (s.record true o :: ran.1, ran.2), w)

/-- Runs a plan. -/
def run (name : String) (steps : List (Step σ)) : World σ → Except Panic PlanReport × World σ := fun w =>
  let (r, w) := runSteps none steps w
  (r.map fun ran => ⟨name, ran.1, ran.2⟩, w)

end Plan

end Rollout
