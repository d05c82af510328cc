import Rollout.Json.Decode
import Rollout.Json.Printer

/-!
# Rollout.Proofs.Json.Quoted — a quoted text is read back

Each character of a text between quotes is read back from what is printed for it, so the text is read back whatever its
characters are.  A text that holds another document as a member of an object is therefore read back as it is.

* `Json.readString_quoteChar`: one character.
* `Json.readString_quote`: all characters up to the closing quote.
* `Doc.ofText_quote`: a document that is a text.
* `Doc.ofText_member`: an object with one member, which is a text.
-/

namespace Rollout.Json

variable {rest : List Char}

/-- The four digits of an escaped control character. -/
theorem readHex4_control {n : Nat} (h : n < 32) (rest : List Char) :
    readHex4 ('0' :: '0' :: hexDigit (n / 16) :: hexDigit (n % 16) :: rest) = .ok (n, rest) := by
  have hdigits : ∀ m < 32, Text.digits? 16 ['0', '0', hexDigit (m / 16), hexDigit (m % 16)] = some m := by decide
  unfold readHex4
  rw [List.take_succ_cons, List.take_succ_cons, List.take_succ_cons, List.take_succ_cons, List.take_zero, hdigits n h]
  rfl

theorem readUnit_control {n : Nat} (h : n < 32) (rest : List Char) :
    readUnit ('0' :: '0' :: hexDigit (n / 16) :: hexDigit (n % 16) :: rest) = .ok (Char.ofNat n, rest) := by
  unfold readUnit
  rw [readHex4_control h]
  have hlow : ¬ (0xDC00 ≤ n ∧ n ≤ 0xDFFF) := by omega
  have hplain : n < 0xD800 ∨ 0xDBFF < n := by omega
  show (if _ then _ else _) = _
  rw [if_neg hlow, if_pos hplain]

/-- A character is read back from what is printed for it. -/
theorem readString_quoteChar (fuel : Nat) (seen : List Char) (c : Char) (rest : List Char) :
    readString (fuel + 1) seen (quoteChar c ++ rest) = readString fuel (c :: seen) rest := by
  have hcode {n : Nat} (h : c.toNat = n) : c = Char.ofNat n := by rw [← h, Char.ofNat_toNat]
  unfold quoteChar
  split
  · subst c
    rfl
  split
  · subst c
    rfl
  split
  · subst c
    rfl
  split
  · subst c
    rfl
  split
  · subst c
    rfl
  split
  · rename_i h
    rw [hcode h]
    rfl
  split
  · rename_i h
    rw [hcode h]
    rfl
  split
  · rename_i h
    have hunit := readUnit_control h rest
    rw [Char.ofNat_toNat] at hunit
    show (readUnit ('0' :: '0' :: hexDigit (c.toNat / 16) :: hexDigit (c.toNat % 16) :: rest) >>= fun r =>
      readString fuel (r.1 :: seen) r.2) = _
    rw [hunit]
    rfl
  · rename_i hquote hslash _ _ _ _ _ hprinted
    rw [List.singleton_append, readString.eq_def]
    dsimp only
    rw [if_neg hquote, if_neg hslash, if_neg hprinted]

/-- The characters of a text are read up to the closing quote. -/
theorem readString_quote (seen cs rest : List Char) {fuel : Nat} (h : cs.length < fuel) :
    readString fuel seen (cs.flatMap quoteChar ++ '"' :: rest) = .ok (String.ofList (seen.reverse ++ cs), rest) := by
  induction cs generalizing seen fuel with
  | nil =>
    obtain ⟨fuel, rfl⟩ : ∃ n, fuel = n + 1 := ⟨fuel - 1, by omega⟩
    rw [List.append_nil]
    rfl
  | cons c cs ih =>
    obtain ⟨fuel, rfl⟩ : ∃ n, fuel = n + 1 := ⟨fuel - 1, by omega⟩
    have hcs : cs.length < fuel := by simpa using h
    rw [List.flatMap_cons, List.append_assoc, readString_quoteChar, ih (c :: seen) hcs]
    simp

/-- What is printed for a text is no shorter than the text. -/
theorem length_le_quote (cs : List Char) : cs.length ≤ (cs.flatMap quoteChar).length := by
  induction cs with
  | nil => exact Nat.le_refl 0
  | cons c cs ih =>
    have hchar : 1 ≤ (quoteChar c).length := by
      unfold quoteChar
      repeat' split
      all_goals exact Nat.succ_le_succ (Nat.zero_le _)
    rw [List.flatMap_cons, List.length_append, List.length_cons]
    omega

theorem stringPiece_quote (s : String) (rest : List Char) :
    stringPiece (s.toList.flatMap quoteChar ++ '"' :: rest) = (.ok s, some rest) := by
  have hlength := length_le_quote s.toList
  have hfuel : s.toList.length < (s.toList.flatMap quoteChar ++ '"' :: rest).length + 1 := by
    rw [List.length_append]
    omega
  unfold stringPiece
  rw [readString_quote [] s.toList rest hfuel, List.reverse_nil, List.nil_append, String.ofList_toList]

/-- A text between quotes is read as a value. -/
theorem readValue_quote (fuel : Nat) (s : String) (rest : List Char) :
    readValue (fuel + 1) ('"' :: (s.toList.flatMap quoteChar ++ '"' :: rest)) = (.str s, some rest) := by
  have hvalue : readValue (fuel + 1) ('"' :: (s.toList.flatMap quoteChar ++ '"' :: rest)) =
      stringDoc (stringPiece (s.toList.flatMap quoteChar ++ '"' :: rest)) := by
    rw [readValue]
    rfl
  rw [hvalue, stringPiece_quote]
  rfl

end Rollout.Json

namespace Rollout.Doc

open Json

/-- A text between quotes is the document of the text. -/
theorem ofText_quote (s : String) : ofText (quote s) = (.str s, none) := by
  have hvalue (fuel : Nat) : readValue (fuel + 1) (quote s).toList = (.str s, some []) := by
    rw [quote, String.toList_ofList]
    exact readValue_quote fuel s []
  unfold ofText
  dsimp only
  rw [hvalue]
  rfl

/-- An object with one member that is a text. -/
theorem ofText_member (k s : String) :
    ofText (Json.obj [(k, .str s)]).compact = (.map [(.str k, .str s)] none, none) := by
  let value := '"' :: (s.toList.flatMap quoteChar ++ '"' :: ['\x7d'])
  let member := k.toList.flatMap quoteChar ++ '"' :: ':' :: value
  have htext : (Json.obj [(k, .str s)]).compact.toList = '\x7b' :: '"' :: member := by
    simp [Json.compact, Json.compactMembers, Json.quote, member, value]
  have hmembers (fuel : Nat) : readMembers (fuel + 3) true [] ('"' :: member) =
      (.map [(.str k, .str s)] none, some []) := by
    have hkey : stringDoc (stringPiece member) = (.str k, some (':' :: value)) := by
      rw [stringPiece_quote]
      rfl
    have hvalue : readValue (fuel + 2) value = (.str s, some ['\x7d']) := readValue_quote _ s _
    have hskip : skipSpace ('"' :: member) = '"' :: member := rfl
    have hskip' : skipSpace (':' :: value) = ':' :: value := rfl
    rw [readMembers, hskip]
    dsimp only
    rw [if_neg (by decide), if_pos rfl, if_pos rfl, hkey]
    dsimp only
    rw [hskip']
    simp only [hvalue]
    rw [readMembers]
    rfl
  have hvalue (fuel : Nat) : readValue (fuel + 4) ('\x7b' :: '"' :: member) =
      (.map [(.str k, .str s)] none, some []) := by
    rw [readValue]
    exact hmembers fuel
  unfold ofText
  rw [htext]
  dsimp only
  rw [hvalue]
  rfl

end Rollout.Doc
