/-!
# Rollout.Number.Range — integers of limited width

At its borders the engine meets integers that others keep in a fixed number of bits.  Inside it they are integers like
any other; these are the tests at the borders.

* `Number.isInt32`, `Number.isInt64`: widths with a sign.
* `Number.isInt128`: 128 bits, whether or not one of them is the sign.
-/

namespace Rollout.Number

/-- Whether an integer fits in 32 bits with a sign. -/
def isInt32 (i : Int) : Bool := -0x80000000 ≤ i ∧ i < 0x80000000

/-- Whether an integer fits in 64 bits with a sign. -/
def isInt64 (i : Int) : Bool := -0x8000000000000000 ≤ i ∧ i < 0x8000000000000000

/-- Whether an integer fits in 128 bits, with a sign or without. -/
def isInt128 (i : Int) : Bool :=
  -0x80000000000000000000000000000000 ≤ i ∧ i < 0x100000000000000000000000000000000

end Rollout.Number
