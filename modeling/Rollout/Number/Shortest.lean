import Rollout.Number.Binary64

/-!
# Rollout.Number.Shortest — the fewest digits that read back

The decimal text of a finite double has as few digits as identify it among all doubles, and of the texts with
that many digits it is the nearest.  The search is over decimal grids in exact arithmetic.

* `Binary64.shortest`: digits `d` and exponent `k` with the value `d * 10 ^ k`.
* `Binary64.text`: positional between `10 ^ -5` and `10 ^ 16`, otherwise with a signed exponent.
-/

namespace Rollout.Binary64

/-- The reals that round to a positive double, scaled by `4 / 2 ^ (exponent)`: lower end, value and upper end.
Below a power of two the gap is half as wide. -/
def basin (x : Binary64) : Nat × Nat × Nat :=
  let m := x.significand
  let low := if m = leastNormal ∧ x.exponent ≠ minExponent then 4 * m - 1 else 4 * m - 2
  (low, 4 * m, 4 * m + 2)

/-- `num / den` in units of `10 ^ k`, as numerator and denominator. -/
def inUnits (num den : Nat) (k : Int) : Nat × Nat :=
  if 0 ≤ k then (num, den * Nat.pow 10 k.toNat) else (num * Nat.pow 10 (-k).toNat, den)

/-- The greatest `k` with `10 ^ k ≤ num / den`, both positive. -/
def decimalExponent (num den : Nat) : Int :=
  let guess : Int := ((Nat.toDigits 10 num).length : Int) - ((Nat.toDigits 10 den).length : Int)
  let (n, d) := inUnits num den guess
  if n < d then guess - 1 else guess

/-- Candidates on the grid of `10 ^ k`: the neighbours of the value that round back to it. -/
def gridHit? (x : Binary64) (k : Int) : Option Nat :=
  let (low, mid, high) := x.basin
  -- one quarter of the last binary place, as a fraction
  let (un, ud) := if 2 ≤ x.exponent then (1 <<< (x.exponent - 2).toNat, 1) else (1, 1 <<< (2 - x.exponent).toNat)
  let closed := x.significand % 2 = 0
  let (n, d) := inUnits (mid * un) ud k
  let below := n / d
  let inside (c : Nat) : Bool :=
    let (ln, ld) := inUnits (low * un) ud k
    let (hn, hd) := inUnits (high * un) ud k
    if closed then ln ≤ c * ld ∧ c * hd ≤ hn else ln < c * ld ∧ c * hd < hn
  let above := below + 1
  match (inside below && below ≠ 0), inside above with
  | false, false => none
  | true, false => some below
  | false, true => some above
  | true, true =>
    let gap := 2 * (n - below * d)
    if gap < d then some below
    else if d < gap then some above
    else if below % 2 = 0 then some below else some above

/-- The first grid with a hit, trying `fuel` grids from `10 ^ k` down. -/
def searchGrids (x : Binary64) : Nat → Int → Nat × Int
  | 0, k => (x.significand, k)
  | fuel + 1, k =>
    match x.gridHit? k with
    | some d => (d, k)
    | none => searchGrids x fuel (k - 1)

/-- Drops the zeros at the end of a decimal. -/
def dropZeros : Nat → Nat → Int → Nat × Int
  | 0, d, k => (d, k)
  | fuel + 1, d, k => if d ≠ 0 ∧ d % 10 = 0 then dropZeros fuel (d / 10) (k + 1) else (d, k)

/-- Digits and exponent of the shortest decimal of a double other than zero. -/
def shortest (x : Binary64) : Nat × Int :=
  let (n, d) := x.magnitude
  let (digits, k) := searchGrids x 18 (decimalExponent n d)
  dropZeros 20 digits k

/-- The text of a double.  With `d.ddd * 10 ^ e` for its shortest decimal it is positional for
`-5 ≤ e < 16` and keeps one place after the point; otherwise it has a signed exponent. -/
def text (x : Binary64) : String :=
  let sign := if x.negative then "-" else ""
  if x.isZero then sign ++ "0.0"
  else
    let (d, k) := x.shortest
    let digits := Nat.toDigits 10 d
    let e : Int := k + digits.length - 1
    let body : List Char :=
      if -5 ≤ e ∧ e < 16 then
        if 0 ≤ k then digits ++ List.replicate k.toNat '0' ++ ['.', '0']
        else if 0 ≤ e then
          let whole := (e + 1).toNat
          digits.take whole ++ '.' :: digits.drop whole
        else '0' :: '.' :: (List.replicate (-e - 1).toNat '0' ++ digits)
      else
        let mantissa := match digits with
          | [] => []
          | [c] => [c]
          | c :: rest => c :: '.' :: rest
        let expSign := if e < 0 then '-' else '+'
        mantissa ++ 'e' :: expSign :: Nat.toDigits 10 e.natAbs
    sign ++ String.ofList body

end Rollout.Binary64
