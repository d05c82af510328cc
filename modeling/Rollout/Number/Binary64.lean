/-!
# Rollout.Number.Binary64 — finite 64-bit floating point in exact arithmetic

A finite double is a sign, a significand below `2 ^ 53` and a power of two.  All arithmetic goes through one
rounding function on exact quotients of naturals, so results are values of the logic and not of the machine.

* `Binary64.round?`: the double nearest to `num / den`, ties to the even significand; none above the range.
* `Binary64.mul?`, `Binary64.div?`: the rounded product and quotient.
* `Binary64.scale10?`: the rounded product or quotient with a power of ten that is itself rounded.
-/

namespace Rollout

/-- The finite double `± significand * 2 ^ exponent`. -/
structure Binary64 where
  negative : Bool
  significand : Nat
  exponent : Int
deriving DecidableEq, Repr, Inhabited

namespace Binary64

/-- The least exponent: that of the subnormal numbers and of zero. -/
def minExponent : Int := -1074

/-- The greatest exponent. -/
def maxExponent : Int := 971

/-- The least significand of a number above the subnormal ones, `2 ^ 52`. -/
def leastNormal : Nat := 0x10000000000000

def zero (negative : Bool) : Binary64 := ⟨negative, 0, minExponent⟩

def isZero (x : Binary64) : Bool := x.significand = 0

/-- `num / den` to the nearest natural, a half to the even one. -/
def roundHalfEven (num den : Nat) : Nat :=
  let q := num / den
  let r := num % den
  if 2 * r < den then q
  else if den < 2 * r then q + 1
  else if q % 2 = 0 then q else q + 1

/-- `num / (den * 2 ^ e)` as numerator and denominator. -/
def shiftRight (num den : Nat) (e : Int) : Nat × Nat :=
  if 0 ≤ e then (num, den <<< e.toNat) else (num <<< (-e).toNat, den)

/-- The exponent that gives the quotient of two positive naturals 53 significant bits. -/
def exponentFor (num den : Nat) : Int :=
  let guess : Int := (Nat.log2 num : Int) - (Nat.log2 den : Int) - 52
  let (n, d) := shiftRight num den guess
  if n < d * leastNormal then guess - 1 else guess

/-- The double nearest to `num / den`, a tie going to the even significand; none where that is infinite. -/
def round? (negative : Bool) (num den : Nat) : Option Binary64 :=
  if num = 0 then some (zero negative)
  else
    let e := max (exponentFor num den) minExponent
    let (n, d) := shiftRight num den e
    let m := roundHalfEven n d
    let (m, e) := if m = 2 * leastNormal then (leastNormal, e + 1) else (m, e)
    if e ≤ maxExponent then some ⟨negative, m, e⟩ else none

/-- The magnitude as numerator and denominator. -/
def magnitude (x : Binary64) : Nat × Nat :=
  if 0 ≤ x.exponent then (x.significand <<< x.exponent.toNat, 1)
  else (x.significand, 1 <<< (-x.exponent).toNat)

/-- The rounded product. -/
def mul? (x y : Binary64) : Option Binary64 :=
  let (nx, dx) := x.magnitude
  let (ny, dy) := y.magnitude
  round? (x.negative != y.negative) (nx * ny) (dx * dy)

/-- The rounded quotient by a number other than zero. -/
def div? (x y : Binary64) : Option Binary64 :=
  let (nx, dx) := x.magnitude
  let (ny, dy) := y.magnitude
  round? (x.negative != y.negative) (nx * dy) (dx * ny)

/-- The double nearest to a natural number. -/
def ofNat? (n : Nat) : Option Binary64 := round? false n 1

/-- The double nearest to `10 ^ k`. -/
def pow10? (k : Nat) : Option Binary64 := ofNat? (Nat.pow 10 k)

/-- `x * 10 ^ k` for a double `x`, with the power rounded before the multiplication. -/
def scale10? (x : Binary64) (k : Int) : Option Binary64 := do
  let p ← pow10? k.natAbs
  if 0 ≤ k then x.mul? p else x.div? p

/-- Equality of numbers: as `=`, but the two zeros are equal. -/
def same (x y : Binary64) : Bool := (x.isZero && y.isZero) || x = y

/-- Strict order of numbers. -/
def lt (x y : Binary64) : Bool :=
  let (nx, dx) := x.magnitude
  let (ny, dy) := y.magnitude
  let a : Int := if x.negative then -(nx * dy : Nat) else (nx * dy : Nat)
  let b : Int := if y.negative then -(ny * dx : Nat) else (ny * dx : Nat)
  a < b

end Binary64

end Rollout
