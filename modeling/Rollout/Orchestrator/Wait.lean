import Rollout.Orchestrator.CommandLine

/-!
# Rollout.Orchestrator.Wait — waiting for a state

A state is waited for by looking at it again and again, with a delay after each look, until a look finds it, fails,
or finds that the time has run out.

* `Wait.until`: the looks under a policy.
* `Wait.settled`, `Wait.upgraded`: waiting for an application, and for a unit of one.
-/

namespace Rollout

/-- How long to wait between two looks, and in all. -/
structure Wait where
  delay : Span
  timeout : Span
deriving DecidableEq, Repr, Inhabited

namespace Wait

variable {σ α : Type}

/-- What is wrong when the time has run out. -/
def outOfTime (target expected observed : String) : Fault := .orchestrator (.timeout target expected observed)

/-- Looks, and looks again; the first look started at `started`, and at most `n` looks follow.  A look gives what
is waited for or what is there instead. -/
def loop (p : Wait) (target expected : String) (started : Span) (look : Act σ (Except String α)) :
    Nat → Act σ α
  | 0 => fun w =>
    match look w with
    | (.ok (.ok a), w) => (.ok a, w)
    | (.ok (.error observed), w) => (.error (outOfTime target expected observed), w)
    | (.error e, w) => (.error e, w)
  | n + 1 => fun w =>
    match look w with
    | (.ok (.ok a), w) => (.ok a, w)
    | (.ok (.error observed), w) =>
      if p.timeout ≤ w.now - started then (.error (outOfTime target expected observed), w)
      else loop p target expected started look n (w.later p.delay)
    | (.error e, w) => (.error e, w)

/-- The delays after which the time has run out.  Without a delay only the looks themselves take time, so the
bound is out of reach. -/
def mostDelays (p : Wait) : Nat := if p.delay = 0 then Span.bound else (p.timeout + p.delay - 1) / p.delay

/-- Looks until something is there. -/
def «until» (p : Wait) (target expected : String) (look : Act σ (Except String α)) : Act σ α := fun w =>
  loop p target expected w.now look p.mostDelays w

/-- The policy that is configured. -/
def ofConfig (c : Config.Orchestrator) : Wait := ⟨Span.ofSeconds c.pollInterval, Span.ofSeconds c.waitTimeout⟩

/-- What a look at an application finds, when only accepted statuses will do. -/
def lookSettled (accepted : List String) : Option Application → Except String Application
  | none => .error "not deployed"
  | some app => if app.settled accepted then .ok app else .error app.summary

/-- What a look at a unit finds, when only the end of its upgrade will do. -/
def lookUpgraded (unit : String) (app : Option Application) : Except String Unit :=
  match app.bind fun app => app.units.get? unit with
  | none => .error "unit missing"
  | some u => if u.upgraded then .ok () else .error (u.text ++ " " ++ u.message)

variable [Host σ]

/-- Waits until an application and its units have accepted statuses. -/
def settled (p : Wait) (o : Orchestrator) (application : String) (accepted : List String) : Act σ Application :=
  p.until application (String.intercalate "|" accepted) do
    return lookSettled accepted (← o.ask (.application application))

/-- Waits until a unit reports the end of its upgrade. -/
def upgraded (p : Wait) (o : Orchestrator) (application unit : String) : Act σ Unit :=
  p.until unit AppUnit.upgradeMark do
    return lookUpgraded unit (← o.ask (.application application))

end Wait

end Rollout
