import Rollout.Proofs.Number.Shortest

/-!
# Rollout.Proofs.Number.Rounded — what is rounded is representable

The exponent to which a quotient is rounded gives it 53 significant bits, unless that is below the least one.  So
rounding ends in a double of the format, and so do products, quotients and powers of ten, which are all rounded.

* `exponentFor_spec`: the exponent of a quotient.
* `round?_representable`: what a quotient is rounded to.
* `mul?_representable`, `div?_representable`, `scale10?_representable`: what is computed.
-/

namespace Rollout.Binary64

variable {x y z : Binary64} {negative : Bool} {num den : Nat} {k : Int}

theorem leastNormal_cast : (leastNormal : ℚ) = 2 ^ 52 := by norm_num [leastNormal]

theorem leastNormal_pos : 0 < leastNormal := by decide

theorem zero_representable (negative : Bool) : (zero negative).Representable :=
  ⟨Nat.mul_pos (by decide) leastNormal_pos, .inr rfl, Int.le_refl _, show minExponent ≤ maxExponent by decide⟩

theorem Representable.withSign (h : x.Representable) (negative : Bool) :
    ({ x with negative } : Binary64).Representable :=
  ⟨h.significand_lt, h.normal, h.minExponent_le, h.le_maxExponent⟩

/-! ## Rounding -/

theorem roundHalfEven_cases (num den : Nat) :
    roundHalfEven num den = num / den ∨ roundHalfEven num den = num / den + 1 := by
  unfold roundHalfEven
  dsimp only
  split
  · exact .inl rfl
  · split
    · exact .inr rfl
    · split
      · exact .inl rfl
      · exact .inr rfl

theorem roundHalfEven_le {c : Nat} (hden : 0 < den) (h : num < c * den) : roundHalfEven num den ≤ c := by
  have hdiv : num / den < c := (Nat.div_lt_iff_lt_mul hden).mpr h
  rcases roundHalfEven_cases num den with heq | heq
  · omega
  · omega

theorem le_roundHalfEven {c : Nat} (hden : 0 < den) (h : c * den ≤ num) : c ≤ roundHalfEven num den := by
  have hdiv : c ≤ num / den := (Nat.le_div_iff_mul_le hden).mpr h
  rcases roundHalfEven_cases num den with heq | heq
  · omega
  · omega

theorem shiftRight_pos (hden : 0 < den) (k : Int) : 0 < (shiftRight num den k).2 := by
  unfold shiftRight
  split
  · rw [Nat.shiftLeft_eq]
    exact Nat.mul_pos hden (Nat.two_pow_pos _)
  · exact hden

/-- A quotient in units of a power of two. -/
theorem shiftRight_div (num den : Nat) (k : Int) :
    ((shiftRight num den k).1 : ℚ) / (shiftRight num den k).2 = num / den / 2 ^ k := by
  unfold shiftRight
  split
  · obtain ⟨n, rfl⟩ := Int.eq_ofNat_of_zero_le ‹0 ≤ k›
    simp [Nat.shiftLeft_eq, div_div]
  · obtain ⟨n, hn⟩ := Int.eq_ofNat_of_zero_le (show 0 ≤ -k by omega)
    obtain rfl : k = -(n : Int) := by omega
    simp [Nat.shiftLeft_eq, div_eq_mul_inv, mul_right_comm]

theorem shiftRight_lt_iff (hden : 0 < den) {c : Nat} :
    (shiftRight num den k).1 < c * (shiftRight num den k).2 ↔ (num / den : ℚ) < c * 2 ^ k := by
  have hpos : (0 : ℚ) < (shiftRight num den k).2 := by exact_mod_cast shiftRight_pos hden k
  have hunit : (0 : ℚ) < 2 ^ k := zpow_pos (by norm_num) k
  rw [← div_lt_iff₀ hunit, ← shiftRight_div, div_lt_iff₀ hpos]
  exact_mod_cast Iff.rfl

theorem le_shiftRight_iff (hden : 0 < den) {c : Nat} :
    c * (shiftRight num den k).2 ≤ (shiftRight num den k).1 ↔ c * (2 : ℚ) ^ k ≤ num / den := by
  rw [← not_lt, shiftRight_lt_iff hden, not_lt]

/-- A quotient has 53 significant bits in units of the power of two of its exponent. -/
theorem exponentFor_spec (hnum : num ≠ 0) (hden : 0 < den) :
    (leastNormal : ℚ) * 2 ^ exponentFor num den ≤ num / den ∧
      (num / den : ℚ) < 2 * leastNormal * 2 ^ exponentFor num den := by
  have hden' : (0 : ℚ) < den := by exact_mod_cast hden
  have hnumLow : (2 : ℚ) ^ num.log2 ≤ num := by exact_mod_cast Nat.log2_self_le hnum
  have hnumHigh : (num : ℚ) < 2 ^ (num.log2 + 1) := by exact_mod_cast Nat.lt_log2_self
  have hdenLow : (2 : ℚ) ^ den.log2 ≤ den := by exact_mod_cast Nat.log2_self_le hden.ne'
  have hdenHigh : (den : ℚ) < 2 ^ (den.log2 + 1) := by exact_mod_cast Nat.lt_log2_self
  unfold exponentFor
  generalize hguess : (num.log2 : Int) - (den.log2 : Int) - 52 = guess
  -- The guess is right, or too great by one.
  have hhigh : (num / den : ℚ) < 2 ^ (guess + 53) := by
    have hexp : guess + 53 = ((num.log2 + 1 : Nat) : Int) - (den.log2 : Nat) := by omega
    rw [hexp, zpow_sub₀ (by norm_num), zpow_natCast, zpow_natCast]
    exact div_lt_div₀ hnumHigh hdenLow (by positivity) (by positivity)
  have hlow : (2 : ℚ) ^ (guess + 51) ≤ num / den := by
    have hexp : guess + 51 = (num.log2 : Int) - ((den.log2 + 1 : Nat) : Int) := by omega
    rw [hexp, zpow_sub₀ (by norm_num), zpow_natCast, zpow_natCast]
    exact div_le_div₀ (Nat.cast_nonneg _) hnumLow hden' hdenHigh.le
  have hpow (c : Int) : (2 : ℚ) ^ (guess + c) = 2 ^ c * 2 ^ guess := by rw [zpow_add₀ (by norm_num), mul_comm]
  dsimp only
  split
  · rename_i h
    rw [Nat.mul_comm, shiftRight_lt_iff hden] at h
    have hstep : (2 : ℚ) ^ guess = 2 * 2 ^ (guess - 1) := by
      rw [zpow_sub_one₀ (by norm_num)]
      ring
    rw [hpow, hstep] at hlow
    rw [hstep] at h
    rw [leastNormal_cast] at h ⊢
    norm_num at hlow h ⊢
    constructor
    · linarith
    · linarith
  · rename_i h
    rw [Nat.mul_comm, shiftRight_lt_iff hden, not_lt] at h
    rw [hpow] at hhigh
    rw [leastNormal_cast] at h ⊢
    norm_num at hhigh h ⊢
    exact ⟨h, hhigh⟩

/-- The significand to which a quotient is rounded, before it is carried over. -/
theorem significand_bounds (hnum : num ≠ 0) (hden : 0 < den) :
    let e := max (exponentFor num den) minExponent
    let m := roundHalfEven (shiftRight num den e).1 (shiftRight num den e).2
    m ≤ 2 * leastNormal ∧ (leastNormal ≤ m ∨ e = minExponent) := by
  intro e m
  obtain ⟨hlow, hhigh⟩ := exponentFor_spec hnum hden
  have hpos : 0 < (shiftRight num den e).2 := shiftRight_pos hden e
  refine ⟨roundHalfEven_le hpos ((shiftRight_lt_iff hden).mpr ?_), ?_⟩
  · have hmono : (2 : ℚ) ^ exponentFor num den ≤ 2 ^ e := zpow_le_zpow_right₀ (by norm_num) (le_max_left _ _)
    refine lt_of_lt_of_le hhigh ?_
    push_cast
    exact mul_le_mul_of_nonneg_left hmono (by positivity)
  · rcases max_choice (exponentFor num den) minExponent with hmax | hmax
    · refine .inl (le_roundHalfEven hpos ((le_shiftRight_iff hden).mpr ?_))
      rwa [show e = exponentFor num den from hmax]
    · exact .inr hmax

/-- A significand that has become too great is carried over to the next exponent. -/
def carried (m : Nat) (e : Int) : Nat × Int := if m = 2 * leastNormal then (leastNormal, e + 1) else (m, e)

theorem carried_cases (m : Nat) (e : Int) :
    carried m e = (leastNormal, e + 1) ∨ m ≠ 2 * leastNormal ∧ carried m e = (m, e) := by
  unfold carried
  by_cases hcarry : m = 2 * leastNormal
  · exact .inl (if_pos hcarry)
  · exact .inr ⟨hcarry, if_neg hcarry⟩

/-- What a quotient is rounded to. -/
theorem round?_cases (h : round? negative num den = some x) : x = zero negative ∧ num = 0 ∨
    num ≠ 0 ∧ ∃ m e, e = max (exponentFor num den) minExponent ∧
      m = roundHalfEven (shiftRight num den e).1 (shiftRight num den e).2 ∧
        (carried m e).2 ≤ maxExponent ∧ x = ⟨negative, (carried m e).1, (carried m e).2⟩ := by
  unfold round? at h
  split at h
  · exact .inl ⟨(Option.some.inj h).symm, ‹num = 0›⟩
  · refine .inr ⟨‹num ≠ 0›, _, _, rfl, rfl, ?_⟩
    extract_lets e at h
    split at h
    rename_i n d hshift
    rw [hshift]
    extract_lets m at h
    split at h
    rename_i m' e' hcarried
    rw [carried, hcarried]
    split at h
    · exact ⟨‹e' ≤ maxExponent›, (Option.some.inj h).symm⟩
    · exact nomatch h

/-- What a quotient is rounded to is representable. -/
theorem round?_representable (hden : 0 < den) (h : round? negative num den = some x) : x.Representable := by
  rcases round?_cases h with ⟨rfl, -⟩ | ⟨hnum, m, e, he, hm, hmax, rfl⟩
  · exact zero_representable negative
  · obtain ⟨hhigh, hlow⟩ := significand_bounds hnum hden
    have hleast := leastNormal_pos
    rw [← he, ← hm] at hhigh hlow
    have hmin : minExponent ≤ e := he ▸ le_max_right _ _
    rcases carried_cases m e with hc | ⟨hne, hc⟩
    · rw [hc] at hmax ⊢
      refine ⟨?_, .inl (Nat.le_refl _), ?_, hmax⟩
      · dsimp only
        omega
      · dsimp only
        omega
    · rw [hc] at hmax ⊢
      refine ⟨?_, hlow, hmin, hmax⟩
      dsimp only
      omega

/-- A quotient that is no less than one is not rounded to zero. -/
theorem round?_ne_zero (hden : 0 < den) (hle : den ≤ num) (h : round? negative num den = some x) :
    x.significand ≠ 0 := by
  rcases round?_cases h with ⟨-, rfl⟩ | ⟨hnum, m, e, he, hm, -, rfl⟩
  · omega
  · obtain ⟨-, hlow⟩ := significand_bounds hnum hden
    have hleast := leastNormal_pos
    rw [← he, ← hm] at hlow
    have hpos : 0 < m := by
      rcases hlow with hlow | hmin
      · omega
      · rw [hm]
        refine le_roundHalfEven (shiftRight_pos hden _) ((le_shiftRight_iff hden).mpr ?_)
        have hone : (1 : ℚ) ≤ num / den := by
          rw [le_div_iff₀ (by exact_mod_cast hden), one_mul]
          exact_mod_cast hle
        refine le_trans ?_ hone
        rw [hmin, Nat.cast_one, one_mul]
        exact zpow_le_one_of_nonpos₀ (by norm_num) (by decide)
    rcases carried_cases m e with hc | ⟨-, hc⟩
    · rw [hc]
      exact hleast.ne'
    · rw [hc]
      exact hpos.ne'

/-! ## Arithmetic -/

theorem mul?_representable (h : x.mul? y = some z) : z.Representable :=
  round?_representable (Nat.mul_pos x.magnitude_pos y.magnitude_pos) h

theorem div?_representable (hy : y.significand ≠ 0) (h : x.div? y = some z) : z.Representable :=
  round?_representable (Nat.mul_pos x.magnitude_pos (Nat.pos_of_ne_zero (magnitude_ne_zero hy))) h

theorem ofNat?_representable {n : Nat} (h : ofNat? n = some x) : x.Representable :=
  round?_representable Nat.one_pos h

theorem pow10?_ne_zero {k : Nat} (h : pow10? k = some x) : x.significand ≠ 0 :=
  round?_ne_zero Nat.one_pos (Nat.pow_pos (by decide)) h

theorem scale10?_representable (h : x.scale10? k = some z) : z.Representable := by
  unfold scale10? at h
  obtain ⟨p, hp, h⟩ := Option.bind_eq_some_iff.mp h
  split at h
  · exact mul?_representable h
  · exact div?_representable (pow10?_ne_zero hp) h

end Rollout.Binary64
