import Rollout.Number.Basic
import Rollout.Proofs.Number.Shortest

/-!
# Rollout.Proofs.Number.Written — the text of a number tells it from all others

The text of a double stands for its shortest decimal, in whichever of the layouts it is written, and so it can be the
text of no other double.  It is told from the text of an integer by its point or its exponent.

* `Binary64.written`: the value that a decimal text stands for.
* `Binary64.written_layout`: every layout stands for the decimal that is written in it.
* `Binary64.text_inj`, `Number.text_inj`: the text tells which number it is.
* `Number.text_chars`: the characters of a number.
-/

namespace Rollout

variable {cs ds tail : List Char}

/-- A row of digits. -/
def Digits (cs : List Char) : Prop := ∀ c ∈ cs, c.isDigit = true

theorem digits_toDigits (n : Nat) : Digits (Nat.toDigits 10 n) := fun _ h =>
  Nat.isDigit_of_mem_toDigits (by decide) (by decide) h

theorem Digits.append (h : Digits cs) (h' : Digits ds) : Digits (cs ++ ds) := by
  intro c hc
  exact (List.mem_append.mp hc).elim (h c) (h' c)

theorem digits_zeros (n : Nat) : Digits (List.replicate n '0') := by
  intro c hc
  rw [List.eq_of_mem_replicate hc]
  rfl

theorem Digits.ne (h : Digits cs) {c : Char} (hc : c.isDigit = false) : ∀ c' ∈ cs, c' ≠ c := by
  rintro c' hc' rfl
  rw [h c' hc'] at hc
  exact nomatch hc

/-- The characters of a number. -/
def NumberChar (c : Char) : Prop := c.isDigit = true ∨ c ∈ ['.', 'e', '+', '-']

theorem Digits.chars (h : Digits cs) : ∀ c ∈ cs, NumberChar c := fun c hc => .inl (h c hc)

theorem numberChar_point : NumberChar '.' := .inr (by decide)

/-! ## Marks -/

/-- A text up to a mark. -/
theorem split_mark {m : Char} (tail : List Char) (hcs : ∀ c ∈ cs, c ≠ m) (htail : ∀ c ∈ tail.head?, c = m) :
    (cs ++ tail).takeWhile (· ≠ m) = cs ∧ (cs ++ tail).dropWhile (· ≠ m) = tail := by
  have hcs' : ∀ c ∈ cs, decide (c ≠ m) = true := fun c hc => decide_eq_true (hcs c hc)
  have hend : tail.takeWhile (· ≠ m) = [] ∧ tail.dropWhile (· ≠ m) = tail := by
    cases tail with
    | nil => exact ⟨rfl, rfl⟩
    | cons c tail =>
      obtain rfl := htail c rfl
      simp
  rw [List.takeWhile_append_of_pos hcs', List.dropWhile_append_of_pos hcs', hend.1, hend.2, List.append_nil]
  exact ⟨rfl, rfl⟩

/-- What stands before a mark can be told from what follows. -/
theorem mark_cancel {m : Char} {rest : List Char} (hcs : ∀ c ∈ cs, c ≠ m) (hds : ∀ c ∈ ds, c ≠ m)
    (htail : ∀ c ∈ tail.head?, c = m) (hrest : ∀ c ∈ rest.head?, c = m) (h : cs ++ tail = ds ++ rest) :
    cs = ds ∧ tail = rest := by
  obtain ⟨htake, hdrop⟩ := split_mark tail hcs htail
  obtain ⟨htake', hdrop'⟩ := split_mark rest hds hrest
  exact ⟨by rw [← htake, h, htake'], by rw [← hdrop, h, hdrop']⟩

/-! ## Signs -/

/-- A text that begins with a digit. -/
def BeginsWithDigit (cs : List Char) : Prop := ∃ c rest, cs = c :: rest ∧ c.isDigit = true

theorem Digits.begins (h : Digits cs) (hne : cs ≠ []) : BeginsWithDigit cs := by
  obtain ⟨c, rest, rfl⟩ := List.exists_cons_of_ne_nil hne
  exact ⟨c, rest, rfl, h c List.mem_cons_self⟩

/-- A text after its sign. -/
def signed (negative : Bool) (cs : List Char) : List Char := (if negative then ['-'] else []) ++ cs

theorem mem_signed {negative : Bool} {c : Char} (h : c ∈ signed negative cs) : c = '-' ∨ c ∈ cs := by
  cases negative with
  | true => exact List.mem_cons.mp h
  | false => exact .inr h

/-- No digit is a sign, so the sign of a number can be told from what follows it. -/
theorem signed_inj {a b : Bool} (hcs : BeginsWithDigit cs) (hds : BeginsWithDigit ds) (h : signed a cs = signed b ds) :
    a = b ∧ cs = ds := by
  obtain ⟨c, rest, rfl, hc⟩ := hcs
  obtain ⟨d, rest', rfl, hd⟩ := hds
  have hdash : ('-' : Char).isDigit = false := rfl
  cases a with
  | true => cases b with
    | true => exact ⟨rfl, (List.cons.inj h).2⟩
    | false =>
      rw [← (List.cons.inj h).1, hdash] at hd
      exact nomatch hd
  | false => cases b with
    | true =>
      rw [(List.cons.inj h).1, hdash] at hc
      exact nomatch hc
    | false => exact ⟨rfl, h⟩

namespace Binary64

variable {d : Nat} {k : Int} {x y : Binary64}

/-! ## What a decimal text stands for -/

/-- The exponent that ends a text. -/
def exponentOf : List Char → Int
  | 'e' :: '-' :: cs => -(Nat.ofDigitChars 10 cs 0 : Nat)
  | 'e' :: '+' :: cs => (Nat.ofDigitChars 10 cs 0 : Nat)
  | _ => 0

/-- The value of a text of digits with or without a point and an exponent. -/
def written (cs : List Char) : ℚ :=
  let mantissa := cs.takeWhile (· ≠ 'e')
  let places := (mantissa.dropWhile (· ≠ '.')).length - 1
  Nat.ofDigitChars 10 (mantissa.filter (· ≠ '.')) 0 * 10 ^ (exponentOf (cs.dropWhile (· ≠ 'e')) - places)

theorem filter_point (hds : Digits ds) : ds.filter (· ≠ '.') = ds :=
  List.filter_eq_self.mpr fun c hc => decide_eq_true (hds.ne rfl c hc)

/-- Digits without a point. -/
theorem written_whole (ds tail : List Char) (hds : Digits ds) (htail : ∀ c ∈ tail.head?, c = 'e') :
    written (ds ++ tail) = Nat.ofDigitChars 10 ds 0 * 10 ^ exponentOf tail := by
  obtain ⟨htake, hdrop⟩ := split_mark tail (hds.ne rfl) htail
  have hpoint : ds.dropWhile (· ≠ '.') = [] := by
    have hsplit := (split_mark (m := '.') [] (hds.ne rfl) (by simp)).2
    rwa [List.append_nil] at hsplit
  unfold written
  dsimp only
  rw [htake, hdrop, hpoint, filter_point hds]
  simp

/-- Digits with a point among them. -/
theorem written_point (cs ds tail : List Char) (hcs : Digits cs) (hds : Digits ds) (htail : ∀ c ∈ tail.head?, c = 'e') :
    written (cs ++ '.' :: ds ++ tail) =
      Nat.ofDigitChars 10 (cs ++ ds) 0 * 10 ^ (exponentOf tail - ds.length) := by
  have hmantissa : ∀ c ∈ cs ++ '.' :: ds, c ≠ 'e' :=
    List.forall_mem_append.mpr ⟨hcs.ne rfl, List.forall_mem_cons.mpr ⟨by decide, hds.ne rfl⟩⟩
  obtain ⟨htake, hdrop⟩ := split_mark tail hmantissa htail
  have hpoint := (split_mark (m := '.') ('.' :: ds) (hcs.ne rfl) (by simp)).2
  have hfilter : (cs ++ '.' :: ds).filter (· ≠ '.') = cs ++ ds := by
    rw [List.filter_append, filter_point hcs, List.filter_cons_of_neg (by simp), filter_point hds]
  unfold written
  dsimp only
  rw [htake, hdrop, hpoint, hfilter]
  simp

/-! ## Layouts -/

/-- The signed exponent at the end of a text. -/
def exponentText (e : Int) : List Char := 'e' :: (if e < 0 then '-' else '+') :: Nat.toDigits 10 e.natAbs

theorem exponentOf_text (e : Int) : exponentOf (exponentText e) = e := by
  unfold exponentText
  split
  · show -((Nat.ofDigitChars 10 (Nat.toDigits 10 e.natAbs) 0 : Nat) : Int) = e
    rw [Nat.ofDigitChars_ten_toDigits]
    omega
  · show ((Nat.ofDigitChars 10 (Nat.toDigits 10 e.natAbs) 0 : Nat) : Int) = e
    rw [Nat.ofDigitChars_ten_toDigits]
    omega

/-- Digits with the last place `10 ^ k` around the point, with one place after it at least. -/
def positional (digits : List Char) (k : Int) : List Char :=
  let e : Int := k + digits.length - 1
  if 0 ≤ k then digits ++ List.replicate k.toNat '0' ++ ['.', '0']
  else if 0 ≤ e then digits.take (e + 1).toNat ++ '.' :: digits.drop (e + 1).toNat
  else '0' :: '.' :: (List.replicate (-e - 1).toNat '0' ++ digits)

/-- Digits with the first place `10 ^ e` and a point after the first, if it is not the only one. -/
def scientific (digits : List Char) (e : Int) : List Char :=
  (match digits with
    | [] => []
    | [c] => [c]
    | c :: rest => c :: '.' :: rest) ++ exponentText e

/-- The decimal `d * 10 ^ k` as it is written. -/
def layout (d : Nat) (k : Int) : List Char :=
  let digits := Nat.toDigits 10 d
  let e : Int := k + digits.length - 1
  if -5 ≤ e ∧ e < 16 then positional digits k else scientific digits e

/-- A text is digits, which may have a point after the first ones, and may end in an exponent; it has a point or an
exponent. -/
inductive Layout (d : Nat) (k : Int) : List Char → Prop
  | point (whole places : List Char) (hwhole : Digits whole) (hplaces : Digits places) (hne : whole ≠ [])
      (hvalue : (Nat.ofDigitChars 10 (whole ++ places) 0 : ℚ) * 10 ^ (-(places.length : Int)) = d * 10 ^ k) :
      Layout d k (whole ++ '.' :: places)
  | exponent (digit : Char) (e : Int) (hdigit : digit.isDigit = true)
      (hvalue : (Nat.ofDigitChars 10 [digit] 0 : ℚ) * 10 ^ e = d * 10 ^ k) : Layout d k (digit :: exponentText e)
  | both (digit : Char) (places : List Char) (e : Int) (hdigit : digit.isDigit = true) (hplaces : Digits places)
      (hvalue : (Nat.ofDigitChars 10 (digit :: places) 0 : ℚ) * 10 ^ (e - places.length) = d * 10 ^ k) :
      Layout d k (digit :: '.' :: (places ++ exponentText e))

theorem positional_layout (hdigits : Digits ds) (hne : ds ≠ []) (hvalue : Nat.ofDigitChars 10 ds 0 = d) :
    Layout d k (positional ds k) := by
  have hlength := List.length_pos_iff.mpr hne
  unfold positional
  dsimp only
  split
  · -- The zeros up to the point belong to the whole part.
    obtain ⟨n, rfl⟩ := Int.eq_ofNat_of_zero_le ‹0 ≤ k›
    refine .point _ ['0'] (hdigits.append (digits_zeros _)) (digits_zeros 1)
      (List.append_ne_nil_of_left_ne_nil hne _) ?_
    have hnumber : Nat.ofDigitChars 10 (ds ++ List.replicate n '0' ++ ['0']) 0 = d * 10 ^ n * 10 := by
      rw [Nat.ofDigitChars_append, Nat.ofDigitChars_append, hvalue, Nat.ofDigitChars_replicate_zero]
      simp [Nat.ofDigitChars, mul_comm]
    rw [Int.toNat_natCast, hnumber]
    push_cast
    rw [List.length_singleton, Nat.cast_one, zpow_neg_one, mul_assoc, mul_inv_cancel₀ (by norm_num), mul_one,
      zpow_natCast]
  · split
    · refine .point _ _ (fun c hc => hdigits c (List.mem_of_mem_take hc))
        (fun c hc => hdigits c (List.mem_of_mem_drop hc)) ?_ ?_
      · intro hnil
        have hlen := congrArg List.length hnil
        rw [List.length_take, List.length_nil] at hlen
        omega
      · have hplaces : -((ds.drop (k + ds.length - 1 + 1).toNat).length : Int) = k := by
          rw [List.length_drop]
          omega
        rw [List.take_append_drop, hvalue, hplaces]
    · refine .point ['0'] _ (digits_zeros 1) ((digits_zeros _).append hdigits) (List.cons_ne_nil _ _) ?_
      have hplaces : -((List.replicate (-(k + ds.length - 1) - 1).toNat '0' ++ ds).length : Int) = k := by
        rw [List.length_append, List.length_replicate]
        omega
      have hzero : Nat.ofDigitChars 10 ['0'] 0 = 0 := rfl
      rw [hplaces, Nat.ofDigitChars_append, Nat.ofDigitChars_append, Nat.ofDigitChars_replicate_zero, hzero,
        Nat.mul_zero, hvalue]

theorem scientific_layout (hdigits : Digits ds) (hne : ds ≠ []) (hvalue : Nat.ofDigitChars 10 ds 0 = d) :
    Layout d k (scientific ds (k + ds.length - 1)) := by
  unfold scientific
  split
  · exact absurd rfl hne
  · rename_i c
    refine .exponent c _ (hdigits c List.mem_cons_self) ?_
    have hexp : k + ([c].length : Nat) - 1 = k := by simp
    rw [hvalue, hexp]
  · rename_i c rest _
    refine .both c rest _ (hdigits c List.mem_cons_self) (fun c' hc' => hdigits c' (List.mem_cons_of_mem _ hc')) ?_
    have hexp : k + ((c :: rest).length : Nat) - 1 - rest.length = k := by
      rw [List.length_cons]
      omega
    rw [hvalue, hexp]

/-- Every decimal is written in one of the layouts. -/
theorem layout_layout (d : Nat) (k : Int) : Layout d k (layout d k) := by
  have hdigits := digits_toDigits d
  have hvalue : Nat.ofDigitChars 10 (Nat.toDigits 10 d) 0 = d := Nat.ofDigitChars_ten_toDigits
  unfold layout
  dsimp only
  split
  · exact positional_layout hdigits Nat.toDigits_ne_nil hvalue
  · exact scientific_layout hdigits Nat.toDigits_ne_nil hvalue

/-- A text in one of the layouts stands for its decimal. -/
theorem Layout.written_eq (h : Layout d k cs) : written cs = d * 10 ^ k := by
  have hexponent (e : Int) : ∀ c ∈ (exponentText e).head?, c = 'e' := fun c hc => by
    cases hc
    rfl
  cases h with
  | point whole places hwhole hplaces hne hvalue =>
    have hwritten := written_point whole places [] hwhole hplaces (by simp)
    rw [List.append_nil] at hwritten
    rw [hwritten, ← hvalue]
    simp [exponentOf]
  | exponent digit e hdigit hvalue =>
    have hwritten := written_whole [digit] _ (by simpa [Digits] using hdigit) (hexponent e)
    rw [List.singleton_append] at hwritten
    rw [hwritten, exponentOf_text, hvalue]
  | both digit places e hdigit hplaces hvalue =>
    have hwritten := written_point [digit] places _ (by simpa [Digits] using hdigit) hplaces (hexponent e)
    rw [List.append_assoc, List.singleton_append, List.cons_append] at hwritten
    rw [hwritten, exponentOf_text, List.singleton_append, hvalue]

theorem written_layout (d : Nat) (k : Int) : written (layout d k) = d * 10 ^ k := (layout_layout d k).written_eq

theorem exponentText_chars (e : Int) : ∀ c ∈ exponentText e, NumberChar c := by
  have hsign : NumberChar (if e < 0 then '-' else '+') := by
    split
    · exact .inr (by decide)
    · exact .inr (by decide)
  exact List.forall_mem_cons.mpr ⟨.inr (by decide), List.forall_mem_cons.mpr ⟨hsign, (digits_toDigits _).chars⟩⟩

/-- A text in one of the layouts begins with a digit and has a point or an exponent. -/
theorem Layout.shape (h : Layout d k cs) :
    BeginsWithDigit cs ∧ ('.' ∈ cs ∨ 'e' ∈ cs) ∧ ∀ c ∈ cs, NumberChar c := by
  cases h with
  | point whole places hwhole hplaces hne hvalue =>
    obtain ⟨c, rest, rfl, hc⟩ := hwhole.begins hne
    exact ⟨⟨c, _, rfl, hc⟩, .inl (by simp),
      List.forall_mem_append.mpr ⟨hwhole.chars, List.forall_mem_cons.mpr ⟨numberChar_point, hplaces.chars⟩⟩⟩
  | exponent digit e hdigit hvalue =>
    exact ⟨⟨digit, _, rfl, hdigit⟩, .inr (by simp [exponentText]),
      List.forall_mem_cons.mpr ⟨.inl hdigit, exponentText_chars e⟩⟩
  | both digit places e hdigit hplaces hvalue =>
    exact ⟨⟨digit, _, rfl, hdigit⟩, .inl (by simp), List.forall_mem_cons.mpr ⟨.inl hdigit,
      List.forall_mem_cons.mpr ⟨numberChar_point, List.forall_mem_append.mpr ⟨hplaces.chars, exponentText_chars e⟩⟩⟩⟩

/-! ## The text of a double -/

/-- The text of a double without its sign. -/
def body (x : Binary64) : List Char := if x.isZero then ['0', '.', '0'] else layout x.shortest.1 x.shortest.2

theorem toList_text (x : Binary64) : x.text.toList = signed x.negative x.body := by
  have hlayout : x.text = if x.isZero then (if x.negative then "-" else "") ++ "0.0"
      else (if x.negative then "-" else "") ++ String.ofList (layout x.shortest.1 x.shortest.2) := by
    unfold text layout positional scientific exponentText
    rfl
  have hsign : (if x.negative then "-" else "").toList = if x.negative then ['-'] else [] := by
    cases x.negative with
    | true => rfl
    | false => rfl
  rw [hlayout, body, signed]
  split
  · rw [String.toList_append, hsign]
    rfl
  · rw [String.toList_append, hsign, String.toList_ofList]

theorem body_layout (x : Binary64) : ∃ d k, Layout d k x.body := by
  unfold body
  split
  · exact ⟨0, 0, .point ['0'] ['0'] (digits_zeros 1) (digits_zeros 1) (List.cons_ne_nil _ _)
      (by simp [Nat.ofDigitChars])⟩
  · exact ⟨_, _, layout_layout _ _⟩

/-- The text of a double stands for a real that rounds to it. -/
theorem rounds_written (hx : Representable x) : Rounds x (written x.body) := by
  unfold body
  split
  · rename_i hzero
    have hvalue : written ['0', '.', '0'] = 0 := by
      have hpoint := written_point _ _ [] (digits_zeros 1) (digits_zeros 1) (by simp)
      have hnumber : Nat.ofDigitChars 10 (List.replicate 1 '0' ++ List.replicate 1 '0') 0 = 0 := rfl
      rw [hnumber, Nat.cast_zero, zero_mul] at hpoint
      exact hpoint
    rw [hvalue]
    exact rounds_zero (of_decide_eq_true hzero)
  · rename_i hzero
    rw [written_layout]
    exact rounds_shortest hx fun h => hzero (decide_eq_true h)

/-- Two doubles with one text are the same. -/
theorem text_inj (hx : Representable x) (hy : Representable y) (h : x.text = y.text) : x = y := by
  obtain ⟨dx, kx, hlx⟩ := x.body_layout
  obtain ⟨dy, ky, hly⟩ := y.body_layout
  have htext : signed x.negative x.body = signed y.negative y.body := by rw [← toList_text, ← toList_text, h]
  obtain ⟨hsign, hbody⟩ := signed_inj hlx.shape.1 hly.shape.1 htext
  have hxw := rounds_written hx
  have hyw := rounds_written hy
  rw [hbody] at hxw
  exact hxw.unique hx hy hsign hyw

end Binary64

/-! ## The text of a number -/

namespace Number

/-- Integers are exact, and doubles finite. -/
def Representable : Number → Prop
  | int _ => True
  | float x => x.Representable

theorem toList_int (i : Int) : (int i).text.toList = signed (decide (i < 0)) (Nat.toDigits 10 i.natAbs) := by
  have htext : (int i).text = Int.repr i := Int.toString_eq_repr
  rw [htext, Int.repr_eq_if]
  split
  · have habs : i.toNat = i.natAbs := by omega
    rw [habs, Nat.repr_eq_ofList_toDigits, String.toList_ofList, decide_eq_false (by omega)]
    rfl
  · have habs : (-i).toNat = i.natAbs := by omega
    rw [habs, Nat.repr_eq_ofList_toDigits, String.toList_append, String.toList_ofList, String.toList_ofList,
      decide_eq_true (by omega)]
    rfl

/-- A number is written as digits, of which a double has more than a row, after a sign. -/
theorem exists_signed (n : Number) :
    ∃ negative cs, n.text.toList = signed negative cs ∧ BeginsWithDigit cs ∧ ∀ c ∈ cs, NumberChar c := by
  cases n with
  | int i =>
    have hdigits := digits_toDigits i.natAbs
    exact ⟨_, _, toList_int i, hdigits.begins Nat.toDigits_ne_nil, fun c hc => .inl (hdigits c hc)⟩
  | float x =>
    obtain ⟨d, k, hlayout⟩ := x.body_layout
    exact ⟨_, _, x.toList_text, hlayout.shape.1, hlayout.shape.2.2⟩

/-- A number has no characters but those of numbers. -/
theorem text_chars (n : Number) : ∀ c ∈ n.text.toList, NumberChar c := by
  obtain ⟨negative, cs, htext, -, hchars⟩ := n.exists_signed
  intro c hc
  rw [htext] at hc
  rcases mem_signed hc with rfl | hc
  · exact .inr (by decide)
  · exact hchars c hc

/-- A number begins with a digit or with a minus sign. -/
theorem text_begins (n : Number) : ∃ c rest, n.text.toList = c :: rest ∧ (c.isDigit = true ∨ c = '-') := by
  obtain ⟨negative, cs, htext, ⟨c, rest, rfl, hc⟩, -⟩ := n.exists_signed
  cases negative with
  | true => exact ⟨'-', _, htext, .inr rfl⟩
  | false => exact ⟨c, rest, htext, .inl hc⟩

/-- A point or an exponent tells a double from an integer. -/
theorem int_text_ne_float_text (i : Int) (x : Binary64) : (int i).text ≠ (float x).text := by
  intro h
  have htext : signed (decide (i < 0)) (Nat.toDigits 10 i.natAbs) = signed x.negative x.body := by
    rw [← toList_int, h]
    exact x.toList_text
  have hdigits := digits_toDigits i.natAbs
  obtain ⟨d, k, hlayout⟩ := x.body_layout
  have hbody := (signed_inj (hdigits.begins Nat.toDigits_ne_nil) hlayout.shape.1 htext).2
  rw [hbody] at hdigits
  rcases hlayout.shape.2.1 with hmark | hmark
  · exact absurd (hdigits _ hmark) (by decide)
  · exact absurd (hdigits _ hmark) (by decide)

theorem int_text_inj {i j : Int} (h : (int i).text = (int j).text) : i = j := by
  have hdigits (n : Nat) := (digits_toDigits n).begins Nat.toDigits_ne_nil
  have htext : signed (decide (i < 0)) (Nat.toDigits 10 i.natAbs) =
      signed (decide (j < 0)) (Nat.toDigits 10 j.natAbs) := by
    rw [← toList_int, ← toList_int, h]
  obtain ⟨hsign, htoDigits⟩ := signed_inj (hdigits _) (hdigits _) htext
  have habs : i.natAbs = j.natAbs := by
    rw [← Nat.ofDigitChars_ten_toDigits (n := i.natAbs), htoDigits, Nat.ofDigitChars_ten_toDigits]
  rw [decide_eq_decide] at hsign
  omega

/-- Two numbers with one text are the same. -/
theorem text_inj {m n : Number} (hm : m.Representable) (hn : n.Representable) (h : m.text = n.text) : m = n := by
  cases m with
  | int i => cases n with
    | int j => rw [int_text_inj h]
    | float y => exact absurd h (int_text_ne_float_text i y)
  | float x => cases n with
    | int j => exact absurd h.symm (int_text_ne_float_text j x)
    | float y => rw [Binary64.text_inj hm hn h]

end Number

end Rollout
