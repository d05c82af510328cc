/-!
# Rollout.Text.Digit — digits and the numbers they write

* `Text.digit?`: the value of a digit to a base of at most thirty-six.
* `Text.digits?`, `Text.natural?`: the number that digits write; `natural?` asks for one digit at least.
* `Text.digitVal`: the value of a decimal digit.
-/

namespace Rollout.Text

/-- The value of a decimal digit. -/
def digitVal (c : Char) : Nat := c.toNat - '0'.toNat

/-- The value of a digit to a base of at most thirty-six; its letter may be small or capital. -/
def digit? (base : Nat) (c : Char) : Option Nat :=
  let value :=
    if c.isDigit then some (digitVal c)
    else if 'a' ≤ c && c ≤ 'z' then some (c.toNat - 'a'.toNat + 10)
    else if 'A' ≤ c && c ≤ 'Z' then some (c.toNat - 'A'.toNat + 10)
    else none
  value.filter (· < base)

/-- The number that digits write; no digits write zero. -/
def digits? (base : Nat) (cs : List Char) : Option Nat :=
  cs.foldlM (fun n c => do return n * base + (← digit? base c)) 0

/-- The number that one or more digits write. -/
def natural? (base : Nat) (cs : List Char) : Option Nat := if cs = [] then none else digits? base cs

end Rollout.Text
