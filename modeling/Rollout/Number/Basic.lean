import Rollout.Number.Range
import Rollout.Number.Shortest

/-!
# Rollout.Number — the numbers of a document

A document's number is an exact integer between `-2 ^ 63` and `2 ^ 64 - 1` or a finite double.  The two never
coincide: `1` and `1.0` are different numbers.
-/

namespace Rollout

/-- A number of a document. -/
inductive Number
  | int (value : Int)
  | float (value : Binary64)
deriving DecidableEq, Repr, Inhabited

namespace Number

/-- The least integer a document holds exactly. -/
def minInt : Int := -0x8000000000000000

/-- The greatest integer a document holds exactly. -/
def maxInt : Int := 0xFFFFFFFFFFFFFFFF

/-- The decimal text. -/
def text : Number → String
  | int i => toString i
  | float x => x.text

/-- Equality of numbers of one kind; the two floating zeros are equal. -/
def same : Number → Number → Bool
  | int a, int b => a = b
  | float a, float b => a.same b
  | _, _ => false

/-- Whether the number is a zero of either kind. -/
def isZero : Number → Bool
  | int a => a = 0
  | float a => a.isZero

end Number

end Rollout
