import Rollout.Outcome

/-!
# Rollout.Plan.Report — what a run of a plan did

One record per step that was reached, in order, and the outcome of the whole run.
-/

namespace Rollout

/-- What became of one step; `ran` tells whether its body was run or only its check. -/
structure StepRecord where
  name : String
  description : String
  ran : Bool
  outcome : Outcome
deriving Repr, Inhabited

/-- What became of a plan. -/
structure PlanReport where
  plan : String
  steps : List StepRecord
  outcome : Outcome
deriving Repr, Inhabited

namespace PlanReport

def success (r : PlanReport) : Bool := !r.outcome.isFailed

/-- The number of steps whose body was run. -/
def executed (r : PlanReport) : Nat := r.steps.countP (·.ran)

/-- One line for the plan and one for each step. -/
def text (r : PlanReport) : String :=
  "Plan " ++ r.plan ++ ": " ++ r.outcome.text ++ "\n" ++
    String.join (r.steps.map fun s =>
      "  " ++ s.name ++ " (" ++ (if s.ran then "ran" else "checked") ++ "): " ++ s.outcome.text ++ "\n")

def toJson (r : PlanReport) : Json :=
  .obj [("plan", .str r.plan),
    ("steps", .arr (r.steps.map fun s => .obj [("name", .str s.name), ("description", .str s.description),
      ("ran", .bool s.ran), ("outcome", s.outcome.toJson)])),
    ("outcome", r.outcome.toJson)]

end PlanReport

end Rollout
