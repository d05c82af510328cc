import Rollout.Config.Engine
import Rollout.World.Risky

/-!
# Rollout.Provisioner.Retry — trying again while the state is locked

Another holder keeps the lock on a remote state for a while only, so an attempt that finds it locked is made again
after an interval, as long as the next attempt would start before the deadline.  Where the time that has passed and the
interval are more than a clock can represent together, the program panics.

* `Retry.Policy.run`: the attempts under a policy; `Retry.run`: under the one that is configured.
* `Retry.Policy.mostAttempts`: more attempts than any policy with an interval allows.
-/

namespace Rollout.Retry

variable {σ α : Type}

/-- What happens when a length of time is beyond what a clock can represent. -/
def beyondClock : Panic := ⟨"overflow when adding durations"⟩

/-- Makes an attempt, and others after it; the first one started at `started`, and `n` bounds their number. -/
def loop (interval deadline started : Span) (attempt : Act σ α) : Nat → Risky σ α
  | 0 => Risky.lift attempt
  | n + 1 => fun w =>
    match attempt w with
    | (.ok a, w) => Risky.pure a w
    | (.error e, w) =>
      if e.isStateLocked then
        let next := w.now - started + interval
        if Span.bound ≤ next then Risky.panic beyondClock w
        else if deadline < next then (.error e, w)
        else loop interval deadline started attempt n (w.later interval)
      else (.error e, w)

/-- How long to wait between two attempts, and for how long after the start of the first one another may start. -/
structure Policy where
  interval : Span
  deadline : Span
deriving DecidableEq, Repr, Inhabited

namespace Policy

/-- The policy that is configured. -/
def ofConfig (c : Config.Retry) : Policy := ⟨Span.ofSeconds c.interval, Span.ofSeconds c.deadline⟩

/-- One more than the intervals that fit before the deadline.  Without an interval only the attempts themselves
take time, so the bound is out of reach. -/
def mostAttempts (p : Policy) : Nat := if p.interval = 0 then Span.bound else p.deadline / p.interval + 1

/-- Makes an attempt again while the state is locked. -/
def run (p : Policy) (attempt : Act σ α) : Risky σ α := fun w =>
  loop p.interval p.deadline w.now attempt p.mostAttempts w

end Policy

/-- Makes an attempt again while the state is locked, as is configured. -/
def run (c : Config.Retry) (attempt : Act σ α) : Risky σ α := (Policy.ofConfig c).run attempt

end Rollout.Retry
