import Mathlib.Algebra.Order.Field.Power
import Mathlib.Data.Rat.Cast.Order
import Mathlib.Tactic.Linarith
import Mathlib.Tactic.NormNum
import Mathlib.Tactic.Positivity
import Mathlib.Tactic.Ring
import Rollout.Number.Shortest

/-!
# Rollout.Proofs.Number.Shortest — the shortest decimal tells a double from all others

Every positive real that is not too great rounds to one double.  The shortest decimal of a double is one that rounds to
it, since the last of the grids on which it is looked for is fine enough to have one.  So no two doubles have the same
decimal, whatever digits are chosen for them.

* `Representable`: what the significand and the exponent of a double may be.
* `Rounds`: the reals that round to a double; `Rounds.unique`: to no other.
* `rounds_of_gridHit?`: what is found on a grid rounds to the double.
* `exists_gridHit?`: a grid finer than half of the last binary place holds such a decimal.
* `rounds_shortest`: so does the search.
-/

namespace Rollout.Binary64

variable {x y : Binary64} {q : ℚ} {k : Int}

/-- The significand has at most 53 bits, and fewer only with the least exponent. -/
structure Representable (x : Binary64) : Prop where
  significand_lt : x.significand < 2 * leastNormal
  normal : leastNormal ≤ x.significand ∨ x.exponent = minExponent
  minExponent_le : minExponent ≤ x.exponent
  le_maxExponent : x.exponent ≤ maxExponent

/-! ## The reals that round to a double -/

/-- One quarter of the last binary place. -/
def quarter (x : Binary64) : ℚ := 2 ^ (x.exponent - 2)

theorem quarter_pos (x : Binary64) : 0 < x.quarter := zpow_pos (by norm_num) _

/-- The greatest real below a double that rounds to it, or the least that does not. -/
def lowEnd (x : Binary64) : ℚ := x.basin.1 * x.quarter

/-- The least real above a double that does not round to it, or the greatest that does. -/
def highEnd (x : Binary64) : ℚ := x.basin.2.2 * x.quarter

theorem basin_low (x : Binary64) : x.basin.1 = if x.significand = leastNormal ∧ x.exponent ≠ minExponent then
    4 * x.significand - 1 else 4 * x.significand - 2 := rfl

/-- A real rounds to a double, up to its sign; a tie goes to the even significand. -/
def Rounds (x : Binary64) (q : ℚ) : Prop :=
  if x.significand % 2 = 0 then x.lowEnd ≤ q ∧ q ≤ x.highEnd else x.lowEnd < q ∧ q < x.highEnd

theorem Rounds.le (h : Rounds x q) : x.lowEnd ≤ q ∧ q ≤ x.highEnd := by
  unfold Rounds at h
  split at h
  · exact h
  · exact ⟨h.1.le, h.2.le⟩

theorem Rounds.lt (h : Rounds x q) (hodd : x.significand % 2 = 1) : x.lowEnd < q ∧ q < x.highEnd := by
  unfold Rounds at h
  rwa [if_neg (by omega)] at h

theorem rounds_of_lt (hlow : x.lowEnd < q) (hhigh : q < x.highEnd) : Rounds x q := by
  unfold Rounds
  split
  · exact ⟨hlow.le, hhigh.le⟩
  · exact ⟨hlow, hhigh⟩

/-- What rounds to one double lies below what rounds to the next; the end they may share belongs to the even one. -/
def Below (x y : Binary64) : Prop :=
  x.highEnd ≤ y.lowEnd ∧ (x.significand % 2 = 0 → y.significand % 2 = 0 → x.highEnd < y.lowEnd)

theorem Below.not_rounds (h : Below x y) (hx : Rounds x q) : ¬ Rounds y q := by
  intro hy
  have hshared : x.highEnd = y.lowEnd := le_antisymm h.1 (hy.le.1.trans hx.le.2)
  rcases Nat.mod_two_eq_zero_or_one x.significand with hxe | hxo
  · rcases Nat.mod_two_eq_zero_or_one y.significand with hye | hyo
    · exact absurd hshared (h.2 hxe hye).ne
    · exact absurd (hy.lt hyo).1 (not_lt.mpr (hx.le.2.trans hshared.le))
  · exact absurd (hx.lt hxo).2 (not_lt.mpr (hshared.le.trans hy.le.1))

theorem quarter_congr (h : x.exponent = y.exponent) : x.quarter = y.quarter := by rw [quarter, quarter, h]

theorem below_of_significand_lt (hx : Representable x) (he : x.exponent = y.exponent)
    (hs : x.significand < y.significand) : Below x y := by
  -- The gap below `y` is not the narrow one, since the least normal number is the first of its exponent.
  have hlow : y.basin.1 = 4 * y.significand - 2 := by
    have hwide : ¬ (y.significand = leastNormal ∧ y.exponent ≠ minExponent) := by
      rintro ⟨hleast, hmin⟩
      rcases hx.normal with hn | hn
      · omega
      · exact hmin (he ▸ hn)
    rw [basin_low, if_neg hwide]
  have hnat : 4 * x.significand + 2 ≤ 4 * y.significand - 2 := by omega
  have hcast : ((4 * x.significand + 2 : Nat) : ℚ) ≤ (4 * y.significand - 2 : Nat) := by exact_mod_cast hnat
  have hq := y.quarter_pos
  unfold Below lowEnd highEnd
  rw [quarter_congr he, hlow]
  refine ⟨mul_le_mul_of_nonneg_right hcast hq.le, fun hxe hye => ?_⟩
  have hnat' : 4 * x.significand + 2 < 4 * y.significand - 2 := by omega
  exact mul_lt_mul_of_pos_right (by exact_mod_cast hnat') hq

theorem two_mul_quarter_le (h : x.exponent < y.exponent) : 2 * x.quarter ≤ y.quarter := by
  have hstep : 2 * x.quarter = 2 ^ (x.exponent - 2 + 1) := by
    rw [quarter, zpow_add_one₀ (by norm_num), mul_comm]
  rw [hstep, quarter]
  exact zpow_le_zpow_right₀ (by norm_num) (by omega)

theorem below_of_exponent_lt (hx : Representable x) (hy : Representable y) (he : x.exponent < y.exponent) :
    Below x y := by
  have hnormal : leastNormal ≤ y.significand := hy.normal.resolve_right fun hmin => by
    have := hx.minExponent_le
    omega
  have hlow : 4 * leastNormal - 1 ≤ y.basin.1 := by
    rw [basin_low]
    split
    · omega
    · have hne : y.significand ≠ leastNormal := fun h => by
        have := hx.minExponent_le
        rename_i hwide
        exact hwide ⟨h, by omega⟩
      omega
  have hleast : leastNormal = 2 ^ 52 := by decide
  have hsig := hx.significand_lt
  -- One place of `y` is worth at least two of `x`.
  have hends : y.basin.1 * (2 * x.quarter) ≤ y.lowEnd :=
    mul_le_mul_of_nonneg_left (two_mul_quarter_le he) (Nat.cast_nonneg _)
  have hq := x.quarter_pos
  have hscaled : (y.basin.1 : ℚ) * (2 * x.quarter) = (2 * y.basin.1 : Nat) * x.quarter := by
    push_cast
    ring
  rw [hscaled] at hends
  have hhigh : x.highEnd = (4 * x.significand + 2 : Nat) * x.quarter := rfl
  refine ⟨le_trans ?_ hends, fun hxe _ => lt_of_lt_of_le ?_ hends⟩
  · have hnat : 4 * x.significand + 2 ≤ 2 * y.basin.1 := by omega
    rw [hhigh]
    exact mul_le_mul_of_nonneg_right (by exact_mod_cast hnat) hq.le
  · have hnat : 4 * x.significand + 2 < 2 * y.basin.1 := by omega
    rw [hhigh]
    exact mul_lt_mul_of_pos_right (by exact_mod_cast hnat) hq

/-- No real rounds to two doubles of one sign. -/
theorem Rounds.unique (hx : Representable x) (hy : Representable y) (hsign : x.negative = y.negative)
    (hxq : Rounds x q) (hyq : Rounds y q) : x = y := by
  rcases lt_trichotomy x.exponent y.exponent with he | he | he
  · exact absurd hyq ((below_of_exponent_lt hx hy he).not_rounds hxq)
  · rcases lt_trichotomy x.significand y.significand with hs | hs | hs
    · exact absurd hyq ((below_of_significand_lt hx he hs).not_rounds hxq)
    · cases x
      cases y
      simp_all
    · exact absurd hxq ((below_of_significand_lt hy he.symm hs).not_rounds hyq)
  · exact absurd hxq ((below_of_exponent_lt hy hx he).not_rounds hyq)

/-! ## Decimals on a grid -/

theorem inUnits_pos (num : Nat) {den : Nat} (h : 0 < den) (k : Int) : 0 < (inUnits num den k).2 := by
  unfold inUnits
  split
  · exact Nat.mul_pos h (Nat.pow_pos (by decide))
  · exact h

/-- A quotient in units of a power of ten. -/
theorem inUnits_div (num den : Nat) (k : Int) :
    ((inUnits num den k).1 : ℚ) / (inUnits num den k).2 = num / den / 10 ^ k := by
  unfold inUnits
  split
  · obtain ⟨n, rfl⟩ := Int.eq_ofNat_of_zero_le ‹0 ≤ k›
    simp [div_div]
  · obtain ⟨n, hn⟩ := Int.eq_ofNat_of_zero_le (show 0 ≤ -k by omega)
    obtain rfl : k = -(n : Int) := by omega
    simp [div_eq_mul_inv, mul_right_comm]

/-- One quarter of the last binary place as numerator and denominator. -/
def quarterParts (x : Binary64) : Nat × Nat :=
  if 2 ≤ x.exponent then (1 <<< (x.exponent - 2).toNat, 1) else (1, 1 <<< (2 - x.exponent).toNat)

theorem quarterParts_pos (x : Binary64) : 0 < x.quarterParts.2 := by
  unfold quarterParts
  split
  · exact Nat.one_pos
  · simp [Nat.shiftLeft_eq]

theorem quarterParts_div (x : Binary64) : (x.quarterParts.1 : ℚ) / x.quarterParts.2 = x.quarter := by
  unfold quarterParts quarter
  split
  · obtain ⟨n, hn⟩ := Int.eq_ofNat_of_zero_le (show 0 ≤ x.exponent - 2 by omega)
    simp [hn, Nat.shiftLeft_eq]
  · obtain ⟨n, hn⟩ := Int.eq_ofNat_of_zero_le (show 0 ≤ 2 - x.exponent by omega)
    have hneg : x.exponent - 2 = -(n : Int) := by omega
    simp [hn, hneg, Nat.shiftLeft_eq]

/-- A number of quarters in units of a power of ten. -/
def quartersIn (x : Binary64) (m : Nat) (k : Int) : Nat × Nat :=
  inUnits (m * x.quarterParts.1) x.quarterParts.2 k

theorem quartersIn_pos (x : Binary64) (m : Nat) (k : Int) : 0 < (x.quartersIn m k).2 :=
  inUnits_pos _ x.quarterParts_pos k

theorem quartersIn_div (x : Binary64) (m : Nat) (k : Int) :
    ((x.quartersIn m k).1 : ℚ) / (x.quartersIn m k).2 = m * x.quarter / 10 ^ k := by
  rw [quartersIn, inUnits_div, Nat.cast_mul, mul_div_assoc, quarterParts_div]

theorem quartersIn_le_iff {m c : Nat} :
    (x.quartersIn m k).1 ≤ c * (x.quartersIn m k).2 ↔ m * x.quarter ≤ c * 10 ^ k := by
  have hden : (0 : ℚ) < (x.quartersIn m k).2 := by exact_mod_cast x.quartersIn_pos m k
  have hunit : (0 : ℚ) < 10 ^ k := zpow_pos (by norm_num) k
  rw [← div_le_iff₀ hunit, ← quartersIn_div, div_le_iff₀ hden]
  exact_mod_cast Iff.rfl

theorem le_quartersIn_iff {m c : Nat} :
    c * (x.quartersIn m k).2 ≤ (x.quartersIn m k).1 ↔ c * 10 ^ k ≤ m * x.quarter := by
  have hden : (0 : ℚ) < (x.quartersIn m k).2 := by exact_mod_cast x.quartersIn_pos m k
  have hunit : (0 : ℚ) < 10 ^ k := zpow_pos (by norm_num) k
  rw [← le_div_iff₀ hunit, ← quartersIn_div, le_div_iff₀ hden]
  exact_mod_cast Iff.rfl

/-- Whether a decimal of a grid rounds to a double. -/
def inside (x : Binary64) (k : Int) (c : Nat) : Bool :=
  let (ln, ld) := x.quartersIn x.basin.1 k
  let (hn, hd) := x.quartersIn x.basin.2.2 k
  if x.significand % 2 = 0 then ln ≤ c * ld ∧ c * hd ≤ hn else ln < c * ld ∧ c * hd < hn

theorem inside_iff {c : Nat} : x.inside k c = true ↔ Rounds x (c * 10 ^ k) := by
  unfold inside Rounds
  dsimp only
  split
  · rw [decide_eq_true_iff, quartersIn_le_iff, le_quartersIn_iff]
    rfl
  · rw [decide_eq_true_iff, ← not_le, ← not_le, quartersIn_le_iff, le_quartersIn_iff, not_le, not_le]
    rfl

/-- The greatest decimal of a grid that does not exceed a double. -/
def floor (x : Binary64) (k : Int) : Nat :=
  (x.quartersIn (4 * x.significand) k).1 / (x.quartersIn (4 * x.significand) k).2

/-- What is found on a grid is one of the two neighbours of the double, if it rounds to it. -/
theorem gridHit?_eq (x : Binary64) (k : Int) : x.gridHit? k =
    match (x.inside k (x.floor k) && x.floor k ≠ 0), x.inside k (x.floor k + 1) with
    | false, false => none
    | true, false => some (x.floor k)
    | false, true => some (x.floor k + 1)
    | true, true =>
      let (n, d) := x.quartersIn (4 * x.significand) k
      let gap := 2 * (n - x.floor k * d)
      if gap < d then some (x.floor k)
      else if d < gap then some (x.floor k + 1)
      else if x.floor k % 2 = 0 then some (x.floor k) else some (x.floor k + 1) := by
  rfl

/-- What is found on a grid rounds to the double. -/
theorem rounds_of_gridHit? {d : Nat} (h : x.gridHit? k = some d) : Rounds x (d * 10 ^ k) := by
  rw [gridHit?_eq] at h
  rw [← inside_iff]
  generalize hbelow : (x.inside k (x.floor k) && x.floor k ≠ 0) = below at h
  generalize habove : x.inside k (x.floor k + 1) = above at h
  have hfloor : below = true → x.inside k (x.floor k) = true := fun hb => by
    subst hb
    exact (Bool.and_eq_true_iff.mp hbelow).1
  cases below <;> cases above
  · exact nomatch h
  · exact Option.some.inj h ▸ habove
  · exact Option.some.inj h ▸ hfloor rfl
  · dsimp only at h
    split at h
    · exact Option.some.inj h ▸ hfloor rfl
    · split at h
      · exact Option.some.inj h ▸ habove
      · split at h
        · exact Option.some.inj h ▸ hfloor rfl
        · exact Option.some.inj h ▸ habove

/-- The next decimal above a double rounds to it if the grid is finer than half of the last binary place. -/
theorem rounds_floor_succ (hpos : x.significand ≠ 0) (hfine : (10 : ℚ) ^ k < 2 * x.quarter) :
    Rounds x ((x.floor k + 1 : Nat) * 10 ^ k) := by
  have hden := x.quartersIn_pos (4 * x.significand) k
  have hbelow : (x.floor k : ℚ) * 10 ^ k ≤ (4 * x.significand : Nat) * x.quarter :=
    le_quartersIn_iff.mp (Nat.div_mul_le_self _ _)
  have habove : ((4 * x.significand : Nat) : ℚ) * x.quarter < (x.floor k + 1 : Nat) * 10 ^ k := by
    rw [← not_le, ← le_quartersIn_iff, not_le]
    exact Nat.lt_mul_of_div_lt (Nat.lt_succ_self _) hden
  have hlow : x.basin.1 < 4 * x.significand := by
    rw [basin_low]
    split
    · omega
    · omega
  have hq := x.quarter_pos
  refine rounds_of_lt (lt_trans ?_ habove) ?_
  · exact mul_lt_mul_of_pos_right (by exact_mod_cast hlow) hq
  · have hhigh : x.highEnd = (4 * x.significand : Nat) * x.quarter + 2 * x.quarter := by
      show ((4 * x.significand + 2 : Nat) : ℚ) * x.quarter = _
      push_cast
      ring
    rw [hhigh]
    push_cast at hbelow ⊢
    linarith

theorem exists_gridHit? (hpos : x.significand ≠ 0) (hfine : (10 : ℚ) ^ k < 2 * x.quarter) :
    (x.gridHit? k).isSome = true := by
  have habove : x.inside k (x.floor k + 1) = true := inside_iff.mpr (rounds_floor_succ hpos hfine)
  rw [gridHit?_eq, habove]
  generalize (x.inside k (x.floor k) && x.floor k ≠ 0) = below
  cases below
  · rfl
  · dsimp only
    split
    · rfl
    · split
      · rfl
      · split
        · rfl
        · rfl

/-! ## The search -/

/-- What the search returns was found on a grid, if one of the grids it tries has something. -/
theorem searchGrids_hit {fuel : Nat} (j : Nat) (hj : j < fuel) (hit : (x.gridHit? (k - j)).isSome = true) :
    x.gridHit? (searchGrids x fuel k).2 = some (searchGrids x fuel k).1 := by
  induction fuel generalizing k j with
  | zero => exact absurd hj (Nat.not_lt_zero j)
  | succ fuel ih =>
    unfold searchGrids
    cases hk : x.gridHit? k with
    | some d => exact hk
    | none =>
      cases j with
      | zero =>
        rw [Nat.cast_zero, sub_zero, hk] at hit
        exact nomatch hit
      | succ j =>
        have hnext : k - (j + 1 : Nat) = k - 1 - j := by omega
        exact ih j (Nat.lt_of_succ_lt_succ hj) (hnext ▸ hit)

/-- A decimal keeps its value when zeros at its end are dropped. -/
theorem dropZeros_value (fuel d : Nat) (k : Int) :
    ((dropZeros fuel d k).1 : ℚ) * 10 ^ (dropZeros fuel d k).2 = d * 10 ^ k := by
  induction fuel generalizing d k with
  | zero => rfl
  | succ fuel ih =>
    unfold dropZeros
    split
    · rename_i h
      obtain ⟨c, rfl⟩ : ∃ c, d = c * 10 := ⟨d / 10, by omega⟩
      rw [ih, Nat.mul_div_cancel c (by decide), zpow_add_one₀ (by norm_num)]
      push_cast
      ring
    · rfl

/-- A positive quotient is no less than the power of ten of its decimal exponent. -/
theorem pow_decimalExponent_le {num den : Nat} (hnum : num ≠ 0) (hden : 0 < den) :
    (10 : ℚ) ^ decimalExponent num den ≤ num / den := by
  have hunit (k : Int) : (0 : ℚ) < 10 ^ k := zpow_pos (by norm_num) k
  have hden' : (0 : ℚ) < den := by exact_mod_cast hden
  unfold decimalExponent
  generalize hguess : ((Nat.toDigits 10 num).length : Int) - ((Nat.toDigits 10 den).length : Int) = guess
  dsimp only
  split
  · -- A numerator has its digits, and a denominator has no more than its own.
    obtain ⟨a, ha⟩ : ∃ a, (Nat.toDigits 10 num).length = a + 1 :=
      ⟨_, (Nat.succ_pred_eq_of_pos Nat.length_toDigits_pos).symm⟩
    have hnum' : 10 ^ a ≤ num := by
      rcases Nat.eq_zero_or_pos a with rfl | hpos
      · exact Nat.one_le_iff_ne_zero.mpr hnum
      · by_contra hlt
        have := (Nat.length_toDigits_le_iff (by decide) hpos).mpr (not_le.mp hlt)
        omega
    have hden'' : den < 10 ^ (Nat.toDigits 10 den).length :=
      (Nat.length_toDigits_le_iff (by decide) Nat.length_toDigits_pos).mp (Nat.le_refl _)
    have hexp : guess - 1 = (a : Int) - (Nat.toDigits 10 den).length := by omega
    rw [hexp, zpow_sub₀ (by norm_num), zpow_natCast, zpow_natCast]
    refine div_le_div₀ (Nat.cast_nonneg _) (by exact_mod_cast hnum') hden' ?_
    exact_mod_cast hden''.le
  · rename_i h
    have hpos := inUnits_pos num hden guess
    have hle : (1 : ℚ) ≤ (inUnits num den guess).1 / (inUnits num den guess).2 := by
      rw [le_div_iff₀ (by exact_mod_cast hpos), one_mul]
      exact_mod_cast not_lt.mp h
    rwa [inUnits_div, le_div_iff₀ (hunit guess), one_mul] at hle

theorem magnitude_pos (x : Binary64) : 0 < x.magnitude.2 := by
  unfold magnitude
  split
  · exact Nat.one_pos
  · simp [Nat.shiftLeft_eq]

theorem magnitude_ne_zero (h : x.significand ≠ 0) : x.magnitude.1 ≠ 0 := by
  unfold magnitude
  split
  · simp [Nat.shiftLeft_eq, h]
  · exact h

theorem magnitude_div (x : Binary64) : (x.magnitude.1 : ℚ) / x.magnitude.2 = 4 * x.significand * x.quarter := by
  have hfour : 4 * x.significand * x.quarter = x.significand * (2 : ℚ) ^ x.exponent := by
    have hexp : x.exponent = x.exponent - 2 + 2 := by omega
    rw [quarter, hexp, zpow_add₀ (by norm_num), ← hexp]
    ring
  rw [hfour]
  unfold magnitude
  split
  · obtain ⟨n, hn⟩ := Int.eq_ofNat_of_zero_le ‹0 ≤ x.exponent›
    simp [hn, Nat.shiftLeft_eq]
  · obtain ⟨n, hn⟩ := Int.eq_ofNat_of_zero_le (show 0 ≤ -x.exponent by omega)
    have hneg : x.exponent = -(n : Int) := by omega
    simp [hneg, Nat.shiftLeft_eq, div_eq_mul_inv]

/-- The shortest decimal of a double rounds to it. -/
theorem rounds_shortest (hx : Representable x) (hpos : x.significand ≠ 0) :
    Rounds x (x.shortest.1 * 10 ^ x.shortest.2) := by
  have hexponent := pow_decimalExponent_le (magnitude_ne_zero hpos) x.magnitude_pos
  have hq := x.quarter_pos
  have hsig : (x.significand : ℚ) < 2 ^ 53 := by
    have hleast : 2 * leastNormal = 2 ^ 53 := by decide
    exact_mod_cast hleast ▸ hx.significand_lt
  -- A significand has fewer than seventeen digits.
  have hfine : (10 : ℚ) ^ (decimalExponent x.magnitude.1 x.magnitude.2 - (17 : Nat)) < 2 * x.quarter := by
    rw [zpow_sub₀ (by norm_num), zpow_natCast, div_lt_iff₀ (by norm_num)]
    rw [magnitude_div] at hexponent
    nlinarith
  have hhit : x.gridHit? _ = some (searchGrids x 18 (decimalExponent x.magnitude.1 x.magnitude.2)).1 :=
    searchGrids_hit 17 (by decide) (exists_gridHit? hpos hfine)
  have hshortest : x.shortest = dropZeros 20 (searchGrids x 18 (decimalExponent x.magnitude.1 x.magnitude.2)).1
    (searchGrids x 18 (decimalExponent x.magnitude.1 x.magnitude.2)).2 := rfl
  rw [hshortest, dropZeros_value]
  exact rounds_of_gridHit? hhit

/-- Zero rounds to the double that is zero. -/
theorem rounds_zero (h : x.significand = 0) : Rounds x 0 := by
  have hlow : x.lowEnd = 0 := by
    have hbasin : x.basin.1 = 0 := by simp [basin, h, leastNormal]
    rw [lowEnd, hbasin, Nat.cast_zero, zero_mul]
  have hhigh : 0 ≤ x.highEnd := mul_nonneg (Nat.cast_nonneg _) x.quarter_pos.le
  unfold Rounds
  rw [if_pos (by omega), hlow]
  exact ⟨le_refl 0, hhigh⟩

end Rollout.Binary64
