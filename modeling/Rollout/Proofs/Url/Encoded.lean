import Rollout.Proofs.Registry.Server
import Rollout.Proofs.Text.Order
import Rollout.Proofs.Url.Segments

/-!
# Rollout.Proofs.Url.Encoded — what is encoded is decoded again

A mark and two digits are decoded to the byte they stand for, and all else stands for itself.  Where the mark itself is
encoded, nothing else is taken for a mark, so that the characters are read off their encoding.

* `Url.decoded`: the bytes of an encoded text.
* `Url.decoded_percent`: they are those of the text that was encoded.
* `Url.percent_inj`: no two texts are encoded alike.
* `Url.dot_percent_iff`: only a dot segment is encoded as one.
-/

namespace Rollout.Url

variable {marks cs ds : List Char} {c : Char}

/-- The bytes of a text with its percent encoding undone. -/
def decoded (s : String) : List UInt8 := UrlHost.unpercent (Text.encode s)

/-- An encoded byte is decoded. -/
theorem unpercent_percentByte (b : UInt8) (rest : List UInt8) :
    UrlHost.unpercent ((percentByte b).flatMap Text.encodeChar ++ rest) = b :: UrlHost.unpercent rest := by
  have hdigit : ∀ n < 16, ∃ d, Text.encodeChar (if n < 10 then Char.ofNat (48 + n) else Char.ofNat (55 + n)) = [d] ∧
      Text.digit? 16 (Char.ofNat d.toNat) = some n := by
    have hall : ∀ n < 16, let c := if n < 10 then Char.ofNat (48 + n) else Char.ofNat (55 + n)
        Text.encodeChar c = [c.toNat.toUInt8] ∧ Text.digit? 16 (Char.ofNat c.toNat.toUInt8.toNat) = some n := by decide
    exact fun n hn => ⟨_, hall n hn⟩
  have hmark : Text.encodeChar '%' = [0x25] := by decide
  have hb : b.toNat < 256 := b.toNat_lt
  obtain ⟨high, hhigh, hx⟩ := hdigit (b.toNat / 16) (by omega)
  obtain ⟨low, hlow, hy⟩ := hdigit (b.toNat % 16) (by omega)
  have hbyte : (b.toNat / 16 * 16 + b.toNat % 16).toUInt8 = b := by
    rw [Nat.div_add_mod']
    exact UInt8.ofNat_toNat
  simp only [percentByte, List.flatMap_cons, List.flatMap_nil, hmark, hhigh, hlow, List.cons_append, List.nil_append]
  rw [UrlHost.unpercent, hx, hy]
  simp only [hbyte]

theorem unpercent_percentBytes (bs rest : List UInt8) :
    UrlHost.unpercent ((bs.flatMap percentByte).flatMap Text.encodeChar ++ rest) = bs ++ UrlHost.unpercent rest := by
  induction bs with
  | nil => rfl
  | cons b bs ih =>
    rw [List.flatMap_cons, List.flatMap_append, List.append_assoc, unpercent_percentByte, ih, List.cons_append]

/-- A character is decoded, whether it is encoded or stands for itself. -/
theorem unpercent_percentChar (hmark : '%' ∈ marks) (c : Char) (rest : List UInt8) :
    UrlHost.unpercent ((percentChar marks c).flatMap Text.encodeChar ++ rest) =
      Text.encodeChar c ++ UrlHost.unpercent rest := by
  unfold percentChar
  split
  · exact unpercent_percentBytes _ rest
  · rename_i hplain
    simp only [Bool.or_eq_true, decide_eq_true_eq, List.contains_eq_mem, not_or] at hplain
    obtain ⟨⟨hlow, hhigh⟩, hnone⟩ := hplain
    have hascii : Text.encodeChar c = [c.toNat.toUInt8] := if_pos (by omega)
    have hne : c.toNat.toUInt8 ≠ 0x25 := by
      intro hbyte
      have hnat : c.toNat.toUInt8.toNat = c.toNat := Nat.mod_eq_of_lt (by omega)
      have hc : c = '%' := by rw [← Char.ofNat_toNat c, ← hnat, hbyte]; rfl
      exact hnone (hc ▸ hmark)
    rw [List.flatMap_singleton, hascii, List.singleton_append, UrlHost.unpercent_cons_of_ne hne]
    rfl

/-- What was encoded is decoded. -/
theorem decoded_percent (hmark : '%' ∈ marks) (cs : List Char) :
    decoded (percent marks cs) = cs.flatMap Text.encodeChar := by
  have hrest : ∀ cs : List Char, UrlHost.unpercent ((cs.flatMap (percentChar marks)).flatMap Text.encodeChar) =
      cs.flatMap Text.encodeChar := by
    intro cs
    induction cs with
    | nil => rfl
    | cons c cs ih =>
      rw [List.flatMap_cons, List.flatMap_append, unpercent_percentChar hmark, ih, List.flatMap_cons]
  rw [decoded, Text.encode, percent, String.toList_ofList, hrest]

/-- No two texts are encoded alike. -/
theorem percent_inj (hmark : '%' ∈ marks) : percent marks cs = percent marks ds ↔ cs = ds := by
  refine ⟨fun h => ?_, fun h => h ▸ rfl⟩
  have hbytes : Text.encode (String.ofList cs) = Text.encode (String.ofList ds) := by
    have hdecoded := congrArg decoded h
    rw [decoded_percent hmark, decoded_percent hmark] at hdecoded
    rwa [Text.encode, Text.encode, String.toList_ofList, String.toList_ofList]
  exact String.ofList_injective (Text.encode_inj.mp hbytes)

/-- Only a dot segment is encoded as one. -/
theorem dot_percent_iff (cs : List Char) (hmark : '%' ∈ marks) (hdot : '.' ∉ marks) :
    (isDot (percent marks cs) = true ↔ cs = ['.']) ∧ (isDotDot (percent marks cs) = true ↔ cs = ['.', '.']) := by
  have hof {dots : List String} {ds : List Char} (hdots : ∀ s ∈ dots, decoded s = Text.encode (String.ofList ds))
      (h : dots.contains (percent marks cs) = true) : cs = ds := by
    have hdecoded := hdots _ (List.contains_iff_mem.mp h)
    rw [decoded_percent hmark, ← String.toList_ofList (l := cs)] at hdecoded
    exact String.ofList_injective (Text.encode_inj.mp hdecoded)
  have hself : percentChar marks '.' = ['.'] := if_neg (by simp [hdot])
  refine ⟨⟨hof (by decide), ?_⟩, ⟨hof (by decide), ?_⟩⟩
  all_goals
    rintro rfl
    simp only [percent, List.flatMap_cons, List.flatMap_nil, hself]
    decide

end Rollout.Url
