import Mathlib.Algebra.Ring.Nat
import Mathlib.Data.List.Basic
import Rollout.Text.Utf8

/-!
# Rollout.Proofs.Text.Order — texts in the order of their bytes

Texts are compared by the numbers of their characters.  That is the order of their bytes, since of two characters the
greater one begins with a greater byte or differs in a later one of six bits.

* `Text.spread`: the bytes of a number; `Text.encodeChar_eq`: those of a character.
* `Text.encode_lt_iff`: the order of texts and that of their bytes are the same; `Text.encode_inj`.
-/

namespace Rollout.Text

/-- The bytes of a number: a first one above `lead`, then `k` of six bits each. -/
def spread (lead : Nat) : Nat → Nat → List UInt8
  | 0, n => [(lead + n).toUInt8]
  | k + 1, n => spread lead k (n / 64) ++ [(0x80 + n % 64).toUInt8]

theorem toUInt8_lt {m n : Nat} (h : m < n) (hn : n < 256) : m.toUInt8 < n.toUInt8 := by
  simp only [UInt8.lt_iff_toNat_lt, Nat.toUInt8, UInt8.toNat_ofNat']
  omega

theorem cons_append_lt {a b : UInt8} (h : a < b) (u v : List UInt8) : a :: u < b :: v :=
  List.cons_lt_cons_iff.mpr (.inl h)

/-- Of two numbers that are spread over as many bytes the smaller one has the smaller bytes. -/
theorem spread_append_lt {lead k m n : Nat} (h : m < n) (hn : lead + n / 64 ^ k < 256) (u v : List UInt8) :
    spread lead k m ++ u < spread lead k n ++ v := by
  induction k generalizing m n u v with
  | zero =>
    rw [Nat.pow_zero, Nat.div_one] at hn
    exact cons_append_lt (toUInt8_lt (by omega) hn) u v
  | succ k ih =>
    rw [Nat.pow_succ', ← Nat.div_div_eq_div_mul] at hn
    simp only [spread, List.append_assoc]
    by_cases hhigh : m / 64 < n / 64
    · exact ih hhigh hn _ _
    · -- All bytes but the last are the same.
      have heq : m / 64 = n / 64 := by omega
      rw [heq]
      exact List.append_left_lt (cons_append_lt (toUInt8_lt (by omega) (by omega)) u v)

theorem head_spread (lead k n : Nat) : ∃ r, spread lead k n = (lead + n / 64 ^ k).toUInt8 :: r := by
  induction k generalizing n with
  | zero => exact ⟨[], by simp [spread]⟩
  | succ k ih =>
    obtain ⟨r, hr⟩ := ih (n / 64)
    exact ⟨r ++ [(0x80 + n % 64).toUInt8], by
      rw [spread, hr, Nat.div_div_eq_div_mul, ← Nat.pow_succ']
      rfl⟩

/-- What the bytes of a character look like: the greatest number that fits is below `top`. -/
theorem encodeChar_eq (c : Char) : ∃ lead k, encodeChar c = spread lead k c.toNat ∧
    ((lead = 0 ∧ k = 0 ∧ c.toNat < 0x80) ∨ (lead = 0xC0 ∧ k = 1 ∧ 0x80 ≤ c.toNat ∧ c.toNat < 0x800) ∨
      (lead = 0xE0 ∧ k = 2 ∧ 0x800 ≤ c.toNat ∧ c.toNat < 0x10000) ∨
      (lead = 0xF0 ∧ k = 3 ∧ 0x10000 ≤ c.toNat ∧ c.toNat < 0x110000)) := by
  have hc : c.toNat < 0x110000 := by
    have := c.valid
    simp only [UInt32.isValidChar, Nat.isValidChar] at this
    have : c.toNat = c.val.toNat := rfl
    omega
  unfold encodeChar
  dsimp only
  generalize c.toNat = n at hc
  split_ifs
  · exact ⟨0, 0, by simp [spread], by omega⟩
  · exact ⟨0xC0, 1, by simp [spread], by omega⟩
  · exact ⟨0xE0, 2, by simp [spread, Nat.div_div_eq_div_mul], by omega⟩
  · exact ⟨0xF0, 3, by simp [spread, Nat.div_div_eq_div_mul], by omega⟩

/-- Of two characters the one with the smaller number has the smaller bytes, whatever follows either. -/
theorem encodeChar_append_lt {c d : Char} (h : c < d) (u v : List UInt8) :
    encodeChar c ++ u < encodeChar d ++ v := by
  have hcd : c.toNat < d.toNat := h
  obtain ⟨lead, k, hc, hcases⟩ := encodeChar_eq c
  obtain ⟨lead', k', hd, hcases'⟩ := encodeChar_eq d
  rw [hc, hd]
  by_cases hk : k = k'
  · obtain rfl : lead = lead' := by omega
    subst hk
    have hbyte : lead + d.toNat / 64 ^ k < 256 := by
      rcases hcases' with ⟨rfl, rfl, h⟩ | ⟨rfl, rfl, h⟩ | ⟨rfl, rfl, h⟩ | ⟨rfl, rfl, h⟩ <;> omega
    exact spread_append_lt hcd hbyte u v
  · -- More bytes begin with a greater one.
    obtain ⟨r, hr⟩ := head_spread lead k c.toNat
    obtain ⟨r', hr'⟩ := head_spread lead' k' d.toNat
    rw [hr, hr']
    have hlead : lead + c.toNat / 64 ^ k < lead' + d.toNat / 64 ^ k' ∧ lead' + d.toNat / 64 ^ k' < 256 := by
      rcases hcases with ⟨rfl, rfl, h⟩ | ⟨rfl, rfl, h⟩ | ⟨rfl, rfl, h⟩ | ⟨rfl, rfl, h⟩ <;>
        rcases hcases' with ⟨rfl, rfl, h'⟩ | ⟨rfl, rfl, h'⟩ | ⟨rfl, rfl, h'⟩ | ⟨rfl, rfl, h'⟩ <;> omega
    exact cons_append_lt (toUInt8_lt hlead.1 hlead.2) _ _

theorem encodeChar_ne_nil (c : Char) : encodeChar c ≠ [] := by
  obtain ⟨lead, k, hc, -⟩ := encodeChar_eq c
  obtain ⟨r, hr⟩ := head_spread lead k c.toNat
  rw [hc, hr]
  exact List.cons_ne_nil _ _

theorem flatMap_encodeChar_lt {cs ds : List Char} (h : cs < ds) : cs.flatMap encodeChar < ds.flatMap encodeChar := by
  induction cs generalizing ds with
  | nil =>
    cases ds with
    | nil => exact absurd h (List.lt_irrefl _)
    | cons d ds =>
      rw [List.flatMap_nil, List.flatMap_cons]
      cases hd : encodeChar d with
      | nil => exact absurd hd (encodeChar_ne_nil d)
      | cons b bs => exact List.nil_lt_cons _ _
  | cons c cs ih =>
    cases ds with
    | nil => exact absurd h (List.not_lt_nil _)
    | cons d ds =>
      rw [List.flatMap_cons, List.flatMap_cons]
      rcases List.cons_lt_cons_iff.mp h with hcd | ⟨rfl, hrest⟩
      · exact encodeChar_append_lt hcd _ _
      · exact List.append_left_lt (ih hrest)

/-- Texts are ordered as their bytes are. -/
theorem encode_lt_iff {s t : String} : encode s < encode t ↔ s < t := by
  constructor
  · intro h
    by_contra hst
    rcases Std.lt_trichotomy s t with hlt | rfl | hlt
    · exact hst hlt
    · exact List.lt_irrefl _ h
    · exact List.lt_asymm h (flatMap_encodeChar_lt (String.lt_iff.mp hlt))
  · intro h
    exact flatMap_encodeChar_lt (String.lt_iff.mp h)

/-- No two texts have the same bytes. -/
theorem encode_inj {s t : String} : encode s = encode t ↔ s = t := by
  refine ⟨fun h => ?_, fun h => h ▸ rfl⟩
  rcases Std.lt_trichotomy s t with hlt | heq | hlt
  · exact absurd (h ▸ encode_lt_iff.mpr hlt) (List.lt_irrefl _)
  · exact heq
  · exact absurd (h ▸ encode_lt_iff.mpr hlt) (List.lt_irrefl _)

end Rollout.Text
