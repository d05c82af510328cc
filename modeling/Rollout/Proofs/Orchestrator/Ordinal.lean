import Mathlib.Order.Bounds.Defs
import Rollout.Orchestrator.Application
import Rollout.Proofs.Number.Written

/-!
# Rollout.Proofs.Orchestrator.Ordinal — units by their numbers

The units of an application are listed by name, and in the order of names the tenth comes before the second.  Their
numbers are read from the names: a numeral that was written behind a slash is read as the number it was written for.

* `Text.natural?_toDigits`: a decimal numeral is read as its number.
* `Application.unitName`, `Application.ordinal_unitName`: the number of a unit that is named for it.
* `Application.foldl_higher`, `Application.exists_highest`: of some units one is chosen that no other exceeds.
* `Application.Numbered`, `Application.Numbered.exists_greatest`: the one chosen has the greatest number.
-/

namespace Rollout

namespace Text

theorem digit?_of_isDigit {c : Char} (h : c.isDigit = true) : digit? 10 c = some (digitVal c) := by
  obtain ⟨hzero, hnine⟩ := Char.isDigit_iff_toNat.mp h
  have hlt : digitVal c < 10 := Nat.sub_lt_left_of_lt_add hzero (Nat.lt_succ_of_le hnine)
  unfold digit?
  rw [if_pos h]
  exact Option.filter_some_pos (decide_eq_true hlt)

/-- Digits that follow a number go on with it. -/
theorem foldlM_digit? {cs : List Char} (h : Digits cs) (n : Nat) :
    cs.foldlM (fun n c => do return n * 10 + (← digit? 10 c)) n = some (Nat.ofDigitChars 10 cs n) := by
  induction cs generalizing n with
  | nil => rfl
  | cons c cs ih =>
    obtain ⟨hc, hcs⟩ := List.forall_mem_cons.mp h
    rw [List.foldlM_cons, digit?_of_isDigit hc, Nat.ofDigitChars_cons, Nat.mul_comm 10 n]
    exact ih hcs _

/-- A decimal numeral is read as its number. -/
theorem natural?_toDigits (n : Nat) : natural? 10 (Nat.toDigits 10 n) = some n := by
  unfold natural? digits?
  rw [if_neg Nat.toDigits_ne_nil, foldlM_digit? (digits_toDigits n), Nat.ofDigitChars_ten_toDigits]

end Text

namespace Application

/-! ## The number of a unit -/

/-- The name of a unit: that of its application, and its number. -/
def unitName (application : String) (n : Nat) : String := application ++ "/" ++ toString n

theorem toList_unitName (application : String) (n : Nat) :
    (unitName application n).toList = application.toList ++ '/' :: Nat.toDigits 10 n := by
  have hslash : "/".toList = ['/'] := rfl
  rw [unitName, String.toList_append, String.toList_append, hslash, Nat.toString_eq_repr, Nat.toList_repr,
    List.append_assoc]
  rfl

theorem number?_toDigits {n : Nat} (h : n < UInt64.size) : number? (Nat.toDigits 10 n) = some n := by
  have hread : (Text.natural? 10 (Nat.toDigits 10 n)).filter (· < UInt64.size) = some n := by
    rw [Text.natural?_toDigits]
    exact Option.filter_some_pos (decide_eq_true h)
  unfold number?
  -- A numeral does not begin with a sign.
  split
  · rename_i rest heq
    exact absurd rfl ((digits_toDigits n).ne rfl '+' (heq ▸ List.mem_cons_self))
  · exact hread

/-- The number of a unit is the one that it is named for. -/
theorem ordinal_unitName (application : String) {n : Nat} (h : n < UInt64.size) :
    ordinal (unitName application n) = n := by
  have hnumeral : ∀ c ∈ (Nat.toDigits 10 n).reverse, c ≠ '/' := fun c hc =>
    (digits_toDigits n).ne rfl c (List.mem_reverse.mp hc)
  have htail : ((unitName application n).toList.reverse.takeWhile (· ≠ '/')).reverse = Nat.toDigits 10 n := by
    rw [toList_unitName, List.reverse_append, List.reverse_cons, List.append_assoc,
      (split_mark _ hnumeral (by simp)).1, List.reverse_reverse]
  rw [ordinal, htail, number?_toDigits h]
  rfl

theorem unitName_inj {application : String} {m n : Nat} (h : unitName application m = unitName application n) :
    m = n := by
  have htexts := congrArg String.toList h
  rw [toList_unitName, toList_unitName] at htexts
  have hdigits : Nat.toDigits 10 m = Nat.toDigits 10 n := (List.cons.inj (List.append_cancel_left htexts)).2
  rw [← Nat.ofDigitChars_ten_toDigits (n := m), hdigits, Nat.ofDigitChars_ten_toDigits]

/-! ## The unit chosen -/

/-- Of two units one is kept that neither exceeds. -/
theorem higher_some (b next : String) : ∃ unit, higher (some b) next = some unit ∧ (unit = b ∨ unit = next) ∧
    ordinal b ≤ ordinal unit ∧ ordinal next ≤ ordinal unit := by
  unfold higher
  by_cases hlt : ordinal next < ordinal b
  · exact ⟨b, if_pos hlt, .inl rfl, Nat.le_refl _, Nat.le_of_lt hlt⟩
  · exact ⟨next, if_neg hlt, .inr rfl, Nat.not_lt.mp hlt, Nat.le_refl _⟩

/-- Of a unit and some more one is kept that no other exceeds. -/
theorem foldl_higher (units : List String) (b : String) : ∃ unit, units.foldl higher (some b) = some unit ∧
    unit ∈ b :: units ∧ ∀ v ∈ b :: units, ordinal v ≤ ordinal unit := by
  induction units generalizing b with
  | nil =>
    refine ⟨b, rfl, List.mem_cons_self, fun v hv => ?_⟩
    exact Nat.le_of_eq (congrArg ordinal (List.mem_singleton.mp hv))
  | cons next units ih =>
    obtain ⟨c, hstep, hc, hb, hnext⟩ := higher_some b next
    obtain ⟨unit, hkept, hmem, hmost⟩ := ih c
    have hcunit : ordinal c ≤ ordinal unit := hmost c List.mem_cons_self
    refine ⟨unit, by rw [List.foldl_cons, hstep, hkept], ?_, ?_⟩
    · rcases List.mem_cons.mp hmem with rfl | hmem
      · rcases hc with rfl | rfl <;> simp
      · exact List.mem_cons_of_mem _ (List.mem_cons_of_mem _ hmem)
    · intro v hv
      rcases List.mem_cons.mp hv with rfl | hv
      · exact Nat.le_trans hb hcunit
      · rcases List.mem_cons.mp hv with rfl | hv
        · exact Nat.le_trans hnext hcunit
        · exact hmost v (List.mem_cons_of_mem _ hv)

/-- An application with units has a highest one, and no other exceeds it. -/
theorem exists_highest {a : Application} (h : a.units.keys ≠ []) : ∃ unit, a.highest? = some unit ∧
    unit ∈ a.units.keys ∧ ∀ v ∈ a.units.keys, ordinal v ≤ ordinal unit := by
  obtain ⟨b, units, hkeys⟩ := List.exists_cons_of_ne_nil h
  rw [highest?, hkeys]
  exact foldl_higher units b

/-- There are units, and all are named for numbers of 64 bits. -/
structure Numbered (application : String) (a : Application) : Prop where
  inhabited : a.units.keys ≠ []
  named : ∀ unit ∈ a.units.keys, ∃ n < UInt64.size, unit = unitName application n

/-- The highest unit is the one with the greatest number. -/
theorem Numbered.exists_greatest {application : String} {a : Application} (h : a.Numbered application) :
    ∃ n, IsGreatest {m | unitName application m ∈ a.units.keys} n ∧ a.highest? = some (unitName application n) := by
  obtain ⟨unit, hhighest, hmem, hmost⟩ := exists_highest h.inhabited
  obtain ⟨n, hn, rfl⟩ := h.named unit hmem
  refine ⟨n, ⟨hmem, fun m hm => ?_⟩, hhighest⟩
  obtain ⟨m', hm', heq⟩ := h.named _ hm
  obtain rfl := unitName_inj heq
  have hle := hmost _ hm
  rwa [ordinal_unitName application hm', ordinal_unitName application hn] at hle

end Application

end Rollout
