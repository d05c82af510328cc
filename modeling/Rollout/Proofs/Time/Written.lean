import Mathlib.Algebra.Group.Nat.Defs
import Rollout.Proofs.Time.Calendar

/-!
# Rollout.Proofs.Time.Written — dates and times that were written are read back

Each part of a written date and time is read back from the front of whatever follows it, so the parts are read one
after another.

* `number_digits`: a row of digits is read as its number.
* `member_padded`, `year_yearText`, `fraction_written`: the parts.
* `parse_text`: an instant of the calendar is read back from its wire form.
-/

namespace Rollout.Instant

variable {cs rest : List Char}

/-! ## Digits -/

theorem foldl_digitVal (cs : List Char) (n : Nat) :
    cs.foldl (fun n c => n * 10 + Text.digitVal c) n = Nat.ofDigitChars 10 cs n := by
  rw [Nat.ofDigitChars_eq_foldl]
  congr
  funext n c
  rw [Nat.mul_comm]
  rfl

theorem takeWhile_isDigit_eq_nil (h : ∀ c ∈ cs.head?, c.isDigit = false) (n : Nat) :
    (cs.take n).takeWhile Char.isDigit = [] := by
  match cs, n with
  | [], _ => rw [List.take_nil, List.takeWhile_nil]
  | _ :: _, 0 => rfl
  | c :: cs, n + 1 =>
    have hc : c.isDigit = false := h c rfl
    rw [List.take_succ_cons, List.takeWhile_cons_of_neg (by simp [hc])]

/-- Digits up to a width or up to another character are read as their number. -/
theorem number_digits (width : Option Nat) (rest : List Char) (hdigits : ∀ c ∈ cs, c.isDigit = true) (hne : cs ≠ [])
    (hfits : Nat.ofDigitChars 10 cs 0 < 2 ^ 63) (hwidth : ∀ w, width = some w → cs.length ≤ w)
    (hstop : width = some cs.length ∨ ∀ c ∈ rest.head?, c.isDigit = false) :
    number width (cs ++ rest) = .ok (Nat.ofDigitChars 10 cs 0, rest) := by
  have hint : Number.isInt64 (Nat.ofDigitChars 10 cs 0) = true := by
    simp only [Number.isInt64, decide_eq_true_eq]
    omega
  -- The digits are cut off where the width or the digits end.
  have hcut : ∀ w, width = some w → ((cs ++ rest).take w).takeWhile Char.isDigit = cs := by
    intro w hw
    rw [List.take_append, List.take_of_length_le (hwidth w hw), List.takeWhile_append_of_pos hdigits]
    rcases hstop with hstop | hstop
    · have hlen : w = cs.length := by simpa [hw] using hstop
      rw [hlen, Nat.sub_self, List.take_zero, List.takeWhile_nil, List.append_nil]
    · rw [takeWhile_isDigit_eq_nil hstop, List.append_nil]
  have hend : width = none → (cs ++ rest).takeWhile Char.isDigit = cs := by
    intro hw
    have hstop' : ∀ c ∈ rest.head?, c.isDigit = false := hstop.resolve_left (by simp [hw])
    rw [List.takeWhile_append_of_pos hdigits, ← List.take_length (l := rest), takeWhile_isDigit_eq_nil hstop',
      List.append_nil]
  unfold number
  cases width with
  | some w =>
    dsimp only
    rw [hcut w rfl, foldl_digitVal, hint]
    obtain ⟨c, cs, rfl⟩ := List.exists_cons_of_ne_nil hne
    simp
  | none =>
    dsimp only
    rw [hend rfl, foldl_digitVal, hint]
    obtain ⟨c, cs, rfl⟩ := List.exists_cons_of_ne_nil hne
    simp

/-! ## Padded numbers -/

theorem toList_padded (width n : Nat) : (padded width n).toList =
    List.replicate (width - (Nat.toDigits 10 n).length) '0' ++ Nat.toDigits 10 n := String.toList_ofList

theorem isDigit_of_mem_padded (width n : Nat) : ∀ c ∈ (padded width n).toList, c.isDigit = true := by
  intro c hc
  rw [toList_padded, List.mem_append] at hc
  rcases hc with hc | hc
  · rw [List.eq_of_mem_replicate hc]
    rfl
  · exact Nat.isDigit_of_mem_toDigits (by decide) (by decide) hc

theorem ofDigitChars_padded (width n : Nat) : Nat.ofDigitChars 10 (padded width n).toList 0 = n := by
  rw [toList_padded, Nat.ofDigitChars_append, Nat.ofDigitChars_replicate_zero, Nat.mul_zero,
    Nat.ofDigitChars_ten_toDigits]

theorem padded_ne_nil (width n : Nat) : (padded width n).toList ≠ [] := by
  rw [toList_padded]
  exact List.append_ne_nil_of_right_ne_nil _ Nat.toDigits_ne_nil

theorem length_padded {width n : Nat} (hw : 0 < width) (hn : n < 10 ^ width) : (padded width n).toList.length = width := by
  have hle := (Nat.length_toDigits_le_iff (n := n) (by decide) hw).mpr hn
  rw [toList_padded, List.length_append, List.length_replicate]
  omega

theorem number_padded (width : Nat) {n : Nat} (rest : List Char) (hw : 0 < width) (hn : n < 10 ^ width) (h63 : n < 2 ^ 63) :
    number (some width) ((padded width n).toList ++ rest) = .ok (n, rest) := by
  have hlen := length_padded hw hn
  have h := number_digits (some width) rest (isDigit_of_mem_padded width n)
    (padded_ne_nil width n) (by rwa [ofDigitChars_padded]) (fun w hw' => by cases hw'; omega) (.inl (by rw [hlen]))
  rwa [ofDigitChars_padded] at h

/-! ## Parts of a date and time -/

theorem dropBlanks_of_head (h : ∀ c ∈ cs.head?, Text.isBlankChar c = false) : Text.dropBlanks cs = cs := by
  match cs with
  | [] => rfl
  | c :: cs =>
    have hc : Text.isBlankChar c = false := h c rfl
    exact List.dropWhile_cons_of_neg (by simp [hc])

theorem isBlankChar_of_isDigit {c : Char} (h : c.isDigit = true) : Text.isBlankChar c = false := by
  have hc : 48 ≤ c.toNat ∧ c.toNat ≤ 57 := by
    simp only [Char.isDigit, Bool.and_eq_true, decide_eq_true_eq, ge_iff_le, UInt32.le_iff_toNat_le] at h
    exact h
  simp only [Text.isBlankChar, Bool.or_eq_false_iff, Bool.and_eq_false_iff, decide_eq_false_iff_not]
  omega

/-- A written number begins with a digit. -/
theorem exists_padded (width n : Nat) :
    ∃ c cs, (padded width n).toList = c :: cs ∧ c.isDigit = true ∧ Text.isBlankChar c = false := by
  obtain ⟨c, cs, hcs⟩ := List.exists_cons_of_ne_nil (padded_ne_nil width n)
  have hc : c.isDigit = true := isDigit_of_mem_padded width n c (by rw [hcs]; exact List.mem_cons_self)
  exact ⟨c, cs, hcs, hc, isBlankChar_of_isDigit hc⟩

theorem dropBlanks_padded (width n : Nat) (rest : List Char) :
    Text.dropBlanks ((padded width n).toList ++ rest) = (padded width n).toList ++ rest := by
  obtain ⟨c, cs, hcs, -, hblank⟩ := exists_padded width n
  rw [hcs]
  exact dropBlanks_of_head fun c' hc' => by cases hc'; exact hblank

theorem member_padded {lo hi n : Nat} (rest : List Char) (hlo : lo ≤ n) (hhi : n ≤ hi) (hn : n < 100) :
    member 2 lo hi ((padded 2 n).toList ++ rest) = .ok (n, rest) := by
  have hnumber := number_padded 2 rest (by decide) hn (by omega)
  unfold member
  rw [dropBlanks_padded, hnumber]
  exact if_pos ⟨hlo, hhi⟩

theorem mark_self {c : Char} (rest : List Char) (hc : Text.isBlankChar c = false) :
    mark c (Text.dropBlanks (c :: rest)) = .ok ((), rest) := by
  rw [dropBlanks_of_head fun c' hc' => by cases hc'; exact hc]
  exact if_pos rfl

/-- A padded number is read up to a mark, however many digits it has. -/
theorem number_none_padded (width : Nat) (rest : List Char) {n : Nat} (hn : n < 2 ^ 63) :
    number none ((padded width n).toList ++ '-' :: rest) = .ok (n, '-' :: rest) := by
  have h := number_digits none ('-' :: rest) (isDigit_of_mem_padded width n)
    (padded_ne_nil width n) (by rwa [ofDigitChars_padded]) (fun w hw => nomatch hw) (.inr fun c hc => by cases hc; rfl)
  rwa [ofDigitChars_padded] at h

/-- A number that was read passes a check of its width; the check is a variable here, because its bounds are too large
to be counted down. -/
theorem checked_read {fits : Int → Bool} {f : Nat → Int} {n : Nat} (hfits : fits (f n) = true) :
    (do
      let read ← (.ok (n, rest) : Except InstantFault (Nat × List Char))
      if fits (f read.1) = true then .ok (f read.1, read.2) else .error .outOfRange) = .ok (f n, rest) :=
  if_pos hfits

theorem year_plain {n : Nat} (rest : List Char) (hn : n < 10000) :
    year ((padded 4 n).toList ++ '-' :: rest) = .ok ((n : Int), '-' :: rest) := by
  have hfour := number_padded 4 ('-' :: rest) (by decide) hn (by omega)
  have hint : Number.isInt32 n = true := by
    simp only [Number.isInt32, decide_eq_true_eq]
    omega
  have hdrop := dropBlanks_padded 4 n ('-' :: rest)
  obtain ⟨c, cs, hcs, hdigit, -⟩ := exists_padded 4 n
  have hminus : c ≠ '-' := by rintro rfl; cases hdigit
  have hplus : c ≠ '+' := by rintro rfl; cases hdigit
  rw [hcs, List.cons_append] at hfour hdrop ⊢
  unfold year
  rw [hdrop]
  simp only [List.cons.injEq, hminus, hplus, false_and, imp_self, implies_true, hfour, pure_bind]
  exact checked_read (f := fun n => (n : Int)) hint

/-- A year is read up to the mark behind it. -/
theorem year_yearText {y : Int} (rest : List Char) (hmin : minYear ≤ y) (hmax : y ≤ maxYear) :
    year ((yearText y).toList ++ '-' :: rest) = .ok (y, '-' :: rest) := by
  unfold minYear at hmin
  unfold maxYear at hmax
  have hint : Number.isInt32 y = true := by
    simp only [Number.isInt32, decide_eq_true_eq]
    omega
  unfold yearText
  split
  · have h := year_plain (n := y.toNat) rest (by omega)
    rwa [Int.toNat_of_nonneg (by omega)] at h
  · split
    · have hnumber := number_none_padded 4 rest (n := y.natAbs) (by omega)
      have hy : -((y.natAbs : Nat) : Int) = y := by omega
      rw [← hy] at hint
      rw [String.toList_append, List.append_assoc]
      unfold year
      rw [dropBlanks_of_head fun c' hc' => by cases hc'; rfl]
      simp only [String.reduceToList, List.cons_append, List.nil_append, hnumber, pure_bind]
      rw [checked_read (f := fun n => -(n : Int)) hint, hy]
    · have hnumber := number_none_padded 5 rest (n := y.toNat) (by omega)
      have hy : ((y.toNat : Nat) : Int) = y := by omega
      rw [← hy] at hint
      rw [String.toList_append, List.append_assoc]
      unfold year
      rw [dropBlanks_of_head fun c' hc' => by cases hc'; rfl]
      simp only [String.reduceToList, List.cons_append, List.nil_append, hnumber, pure_bind]
      rw [checked_read (f := fun n => (n : Int)) hint, hy]

/-- A fraction of a given number of digits. -/
theorem fraction_padded {width n : Nat} (hw : 0 < width) (hw9 : width ≤ 9) (hn : n < 10 ^ width) :
    fraction ('.' :: ((padded width n).toList ++ 'Z' :: rest)) = .ok (n * 10 ^ (9 - width), 'Z' :: rest) := by
  have hlen := length_padded hw hn
  have hbound : n < 10 ^ 9 := Nat.lt_of_lt_of_le hn (Nat.pow_le_pow_right (by decide) hw9)
  have h := number_digits (some 9) ('Z' :: rest) (isDigit_of_mem_padded width n)
    (padded_ne_nil width n) (by rw [ofDigitChars_padded]; omega) (fun w hw => by cases hw; omega)
    (.inr fun c hc => by cases hc; rfl)
  rw [ofDigitChars_padded] at h
  have hcount : ((padded width n).toList ++ 'Z' :: rest).length - ('Z' :: rest).length = width := by
    rw [List.length_append, hlen]
    omega
  unfold fraction
  simp only [h, bind, Except.bind, hcount]
  rfl

/-- The digits behind the point, as few as are exact. -/
def fractionText (nano : Nat) : String :=
  if nano = 0 then ""
  else if nano % 1000000 = 0 then "." ++ padded 3 (nano / 1000000)
  else if nano % 1000 = 0 then "." ++ padded 6 (nano / 1000)
  else "." ++ padded 9 nano

theorem fraction_written {nano : Nat} (h : nano < 1000000000) :
    fraction ((fractionText nano).toList ++ ['Z']) = .ok (nano, ['Z']) := by
  have hpoint : ∀ width n, width ≤ 9 → 0 < width → n < 10 ^ width →
      fraction (("." ++ padded width n).toList ++ ['Z']) = .ok (n * 10 ^ (9 - width), ['Z']) := by
    intro width n hw9 hw hn
    rw [String.toList_append, List.append_assoc, String.toList_ofList, List.singleton_append]
    exact fraction_padded hw hw9 hn
  unfold fractionText
  split
  · rename_i hzero
    subst hzero
    rfl
  · split
    · rw [hpoint 3 _ (by decide) (by decide) (by omega)]
      congr 2
      omega
    · split
      · rw [hpoint 6 _ (by decide) (by decide) (by omega)]
        congr 2
        omega
      · rw [hpoint 9 _ (by decide) (by decide) (by omega)]
        congr 2
        omega

/-! ## Instants -/

theorem timeText_eq {t : Instant} (h : t.nano < 1000000000) : t.timeText =
    padded 2 (t.second / 3600) ++ ":" ++ padded 2 (t.second / 60 % 60) ++ ":" ++ padded 2 (t.second % 60) ++
      fractionText t.nano := by
  unfold timeText fractionText
  simp only [Nat.not_le.mpr h, if_false, Nat.add_zero]

/-- The date and time of an instant of the calendar, put together again. -/
theorem ofParts_self {t : Instant} (h : t.InCalendar) :
    ofParts (dateOfDays t.day).1 (dateOfDays t.day).2.1 (dateOfDays t.day).2.2 (t.second / 3600)
      (t.second / 60 % 60) (t.second % 60) t.nano 0 = .ok t := by
  obtain ⟨hmin, hmax⟩ := dateOfDays_year h
  have hday := dateOfDays_day_le t.day
  have hfirst := h.first
  have hlast := h.last
  have hsecond := h.second
  have hleap : ¬ t.second % 60 = 60 := by omega
  have hlocal : ((t.second / 3600 * 3600 + t.second / 60 % 60 * 60 + t.second % 60 : Nat) : Int) - 0 = t.second := by
    omega
  unfold ofParts
  simp only [hleap, if_false, hlocal, daysOfDate_dateOfDays]
  have hdays : t.day + (t.second : Int) / 86400 = t.day := by omega
  have hrest : ((t.second : Int) % 86400).toNat = t.second := by omega
  rw [hdays, hrest, if_neg (by rintro (h | h | h | h) <;> omega), if_neg (by rintro (h | h) <;> omega), Nat.add_zero]

/-- An instant of the calendar is read back from its wire form. -/
theorem parse_text {t : Instant} (h : t.InCalendar) : parse t.text = .ok t := by
  obtain ⟨hmin, hmax⟩ := dateOfDays_year h
  obtain ⟨hmonth, hmonth'⟩ := dateOfDays_month t.day
  have hday := dateOfDays_day_pos t.day
  have hday' := dateOfDays_day_le t.day
  have hlong : daysInMonth (dateOfDays t.day).1 (dateOfDays t.day).2.1 ≤ 31 := by
    unfold daysInMonth
    split
    · split <;> omega
    · split <;> omega
  have hsecond := h.second
  have hself := ofParts_self h
  have htext : t.text.toList = (yearText (dateOfDays t.day).1).toList ++ '-' ::
      ((padded 2 (dateOfDays t.day).2.1).toList ++ '-' :: ((padded 2 (dateOfDays t.day).2.2).toList ++ 'T' ::
        ((padded 2 (t.second / 3600)).toList ++ ':' :: ((padded 2 (t.second / 60 % 60)).toList ++ ':' ::
          ((padded 2 (t.second % 60)).toList ++ ((fractionText t.nano).toList ++ ['Z'])))))) := by
    simp [text, dateText, timeText_eq h.nano]
  unfold parse
  rw [htext]
  generalize dateOfDays t.day = date at *
  obtain ⟨y, m, d⟩ := date
  have hyear := fun rest => year_yearText rest hmin hmax
  have hm := fun rest => member_padded rest hmonth hmonth' (by omega)
  have hd := fun rest => member_padded rest hday (Nat.le_trans hday' hlong) (by omega)
  have hh : ∀ rest, member 2 0 23 ((padded 2 (t.second / 3600)).toList ++ rest) = .ok (t.second / 3600, rest) :=
    fun rest => member_padded rest (Nat.zero_le _) (by omega) (by omega)
  have hmi : ∀ rest, member 2 0 59 ((padded 2 (t.second / 60 % 60)).toList ++ rest) = .ok (t.second / 60 % 60, rest) :=
    fun rest => member_padded rest (Nat.zero_le _) (by omega) (by omega)
  have hs : ∀ rest, member 2 0 60 ((padded 2 (t.second % 60)).toList ++ rest) = .ok (t.second % 60, rest) :=
    fun rest => member_padded rest (Nat.zero_le _) (by omega) (by omega)
  have hdash := fun rest => mark_self (c := '-') rest rfl
  have hcolon := fun rest => mark_self (c := ':') rest rfl
  have hfraction := fraction_written h.nano
  have hoffset : offset (Text.dropBlanks ['Z']) = .ok (0, []) := rfl
  have hend : Text.dropBlanks [] = [] := rfl
  simp [bind, Except.bind, hyear, hm, hd, hh, hmi, hs, hdash, hcolon, hfraction, hoffset, hend, hself]

end Rollout.Instant
