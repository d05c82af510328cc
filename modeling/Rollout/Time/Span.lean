import Rollout.Time.Instant

/-!
# Rollout.Time.Span — lengths of time

Lengths of time are counted in nanoseconds, so that no rounding hides between two of them.  Policies and timeouts
are configured in whole seconds.

* `Span.ofSeconds`, `Span.seconds`: to and from whole seconds, cutting off what is less.
* `Span.bound`: no clock represents that much.
* `Instant.after`: the instant a span later; `Instant.ahead`: what a clock that is ahead shows.
-/

namespace Rollout

/-- A length of time in nanoseconds. -/
abbrev Span := Nat

namespace Span

/-- A thousand million nanoseconds. -/
def second : Span := 1000000000

-- Multiplication recurs on its second factor, so this one stands still where the number is not known.
def ofSeconds (n : Nat) : Span := second * n

def ofMilliseconds (n : Nat) : Span := n * 1000000

/-- The whole seconds in a span. -/
def seconds (d : Span) : Nat := d / second

/-- The least span beyond what a clock can represent: seconds are counted in 64 bits. -/
def bound : Span := ofSeconds UInt64.size

end Span

namespace Instant

/-- The instant a span later. -/
def after (t : Instant) (d : Span) : Instant :=
  let nanos := t.second * Span.second + t.nano + d
  let seconds := nanos / Span.second
  ⟨t.day + (seconds / 86400 : Nat), seconds % 86400, nanos % Span.second⟩

/-- What a clock shows at the instant that is some seconds ahead, or behind if there are fewer than none. -/
def ahead (t : Instant) (seconds : Int) : Instant :=
  let second := (t.second : Int) + seconds
  ⟨t.day + second / 86400, (second % 86400).toNat, t.nano⟩

/-- The fourteen digits of date and time to the second. -/
def stamp (t : Instant) : String :=
  let (y, m, d) := dateOfDays t.day
  yearText y ++ padded 2 m ++ padded 2 d ++ padded 2 (t.second / 3600) ++ padded 2 (t.second / 60 % 60) ++
    padded 2 (t.second % 60)

end Instant

end Rollout
