import Rollout.Proofs.Doc.Yields
import Rollout.Proofs.Json.Reordered
import Rollout.Proofs.Number.Rounded

/-!
# Rollout.Proofs.Json.Proper — what is read from text is proper

Whatever text is read, the numbers of the document are integers or finite doubles of the format, and of two members with
one key only the later is kept.

* `Fits`: what a number read from text may be; `readNumber_fits`.
* `Doc.Exchanged`: the documents that are read from text; `readValue_exchanged`.
* `valueWithin_proper`, `ofText_proper`: the values of such documents are proper.
-/

namespace Rollout

/-- A document whose numbers are finite, and which has no part that only a configuration file can have. -/
inductive Doc.Exchanged : Doc → Prop
  | null : Exchanged .null
  | bool (b : Bool) : Exchanged (.bool b)
  | num {n : Number} : n.Representable → Exchanged (.num n)
  | str (s : String) : Exchanged (.str s)
  | seq {items : List Doc} (stop : Option Flaw) : (∀ item ∈ items, Exchanged item) → Exchanged (.seq items stop)
  | map {members : List (Doc × Doc)} (stop : Option Flaw) :
      (∀ member ∈ members, Exchanged member.2) → Exchanged (.map members stop)
  | broken (flaw : Flaw) : Exchanged (.broken flaw)

namespace Json

open Doc (Exchanged)

/-! ## Numbers -/

/-- If a number was read, it is representable. -/
def Fits (piece : Piece Number) : Prop := ∀ n, piece.1 = .ok n → n.Representable

theorem fits_error (flaw : Flaw) (rest : Option (List Char)) : Fits (.error flaw, rest) := fun _ h => nomatch h

theorem fits_int (i : Int) (rest : Option (List Char)) : Fits (.ok (.int i), rest) := by
  intro n h
  cases h
  trivial

theorem fits_float {x : Binary64} (hx : x.Representable) (rest : Option (List Char)) : Fits (.ok (.float x), rest) := by
  intro n h
  cases h
  exact hx

theorem down_representable {fuel : Nat} {x y : Binary64} {exponent : Int} (hx : x.Representable)
    (h : scale?.down fuel x exponent = some y) : y.Representable := by
  induction fuel generalizing x exponent with
  | zero =>
    unfold scale?.down at h
    split at h
    · exact Binary64.scale10?_representable h
    · split at h
      · exact Option.some.inj h ▸ hx
      · exact Option.some.inj h ▸ Binary64.zero_representable false
  | succ fuel ih =>
    unfold scale?.down at h
    split at h
    · exact Binary64.scale10?_representable h
    · split at h
      · exact Option.some.inj h ▸ hx
      · obtain ⟨z, hz, h⟩ := Option.bind_eq_some_iff.mp h
        exact ih (Binary64.scale10?_representable hz) h

theorem scale?_representable {s : Nat} {exponent : Int} {x : Binary64} (h : scale? s exponent = some x) :
    x.Representable := by
  unfold scale? at h
  obtain ⟨y, hy, h⟩ := Option.bind_eq_some_iff.mp h
  have hrep := Binary64.ofNat?_representable hy
  split at h
  · split at h
    · exact Option.some.inj h ▸ hrep
    · exact nomatch h
  · exact down_representable hrep h

variable (negative : Bool) (s : Nat) (exponent : Int) (cs : List Char)

theorem floatPiece_fits (rest : List Char) : Fits (floatPiece negative s exponent rest) := by
  unfold floatPiece
  split
  · rename_i x hx
    exact fits_float ((scale?_representable hx).withSign negative) _
  · exact fits_error _ _

theorem readExponent_fits : Fits (readExponent negative s exponent cs) := by
  unfold readExponent
  split
  split
  · exact fits_error _ _
  · split
    · extract_lets digits rest e
      split
      · split
        · exact fits_error _ _
        · exact fits_float (Binary64.zero_representable negative) _
      · exact floatPiece_fits _ _ _ _
    · exact fits_error _ _

theorem readTail_fits : Fits (readTail negative s exponent cs) := by
  unfold readTail
  split
  · split
    · exact readExponent_fits _ _ _ _
    · exact floatPiece_fits _ _ _ _
  · exact floatPiece_fits _ _ _ _

theorem readFraction_fits : Fits (readFraction negative s exponent cs) := by
  unfold readFraction
  split
  · exact fits_error _ _
  · split
    · exact readTail_fits _ _ _ _
    · exact fits_error _ _

theorem whole_fits (left : Nat) (full : Bool) (rest : List Char) :
    Fits (readNumber.whole negative s left full rest) := by
  unfold readNumber.whole
  split
  · exact floatPiece_fits _ _ _ _
  · split
    · exact fits_int _ _
    · split
      · exact fits_int _ _
      · exact floatPiece_fits _ _ _ _

theorem readNumber_fits : Fits (readNumber negative cs) := by
  unfold readNumber
  split
  · exact fits_error _ _
  · split
    · exact fits_error _ _
    · split
      · exact fits_error _ _
      · split
        split
        · exact readFraction_fits _ _ _ _
        · split
          · exact readExponent_fits _ _ _ _
          · exact whole_fits _ _ _ _ _
        · exact whole_fits _ _ _ _ _

/-! ## Documents -/

theorem numberDoc_exchanged {piece : Piece Number} (h : Fits piece) : (numberDoc piece).1.Exchanged := by
  obtain ⟨r, rest⟩ := piece
  cases r with
  | ok n => exact .num (h n rfl)
  | error flaw => exact .broken flaw

theorem stringDoc_exchanged (piece : Piece String) : (stringDoc piece).1.Exchanged := by
  obtain ⟨r, rest⟩ := piece
  cases r with
  | ok s => exact .str s
  | error flaw => exact .broken flaw

theorem readWord_exchanged {doc : Doc} (h : doc.Exchanged) : ∀ word cs : List Char, (readWord word doc cs).1.Exchanged
  | [], _ => h
  | _ :: _, [] => .broken _
  | w :: ws, c :: cs => by
    unfold readWord
    split
    · exact readWord_exchanged h ws cs
    · exact .broken _

mutual

/-- Whatever is read is the document of a value as far as it goes. -/
theorem readValue_exchanged : ∀ (fuel : Nat) (cs : List Char), (readValue fuel cs).1.Exchanged
  | 0, _ => .broken _
  | fuel + 1, cs => by
    unfold readValue
    split
    · exact .broken _
    · split_ifs
      · exact readWord_exchanged .null _ _
      · exact readWord_exchanged (.bool true) _ _
      · exact readWord_exchanged (.bool false) _ _
      · exact numberDoc_exchanged (readNumber_fits _ _)
      · exact numberDoc_exchanged (readNumber_fits _ _)
      · exact stringDoc_exchanged _
      · exact readItems_exchanged fuel _ _ _ fun _ h => nomatch h
      · exact readMembers_exchanged fuel _ _ _ fun _ h => nomatch h
      · exact .broken _

theorem readItems_exchanged : ∀ (fuel : Nat) (first : Bool) (seen : List Doc) (cs : List Char),
    (∀ item ∈ seen, item.Exchanged) → (readItems fuel first seen cs).1.Exchanged
  | 0, _, _, _, _ => .broken _
  | fuel + 1, first, seen, cs, h => by
    have hstop (stop : Option Flaw) : (Doc.seq seen.reverse stop).Exchanged :=
      .seq stop fun item hitem => h item (List.mem_reverse.mp hitem)
    unfold readItems
    extract_lets stop item
    have hitem (cs : List Char) : (item cs).1.Exchanged := by
      have hdoc := readValue_exchanged fuel cs
      unfold item
      split
      · rename_i doc rest hread
        rw [hread] at hdoc
        refine readItems_exchanged fuel _ _ _ fun item hitem => ?_
        rcases List.mem_cons.mp hitem with rfl | hitem
        · exact hdoc
        · exact h item hitem
      · rename_i doc hread
        rw [hread] at hdoc
        refine .seq _ fun item hitem => ?_
        rcases List.mem_cons.mp (List.mem_reverse.mp hitem) with rfl | hitem
        · exact hdoc
        · exact h item hitem
    split
    · exact hstop _
    · split
      · exact hstop _
      · split
        · exact hitem _
        · split
          · split
            · exact hstop _
            · exact hstop _
            · exact hitem _
          · exact hstop _

theorem readMembers_exchanged : ∀ (fuel : Nat) (first : Bool) (seen : List (Doc × Doc)) (cs : List Char),
    (∀ member ∈ seen, member.2.Exchanged) → (readMembers fuel first seen cs).1.Exchanged
  | 0, _, _, _, _ => .broken _
  | fuel + 1, first, seen, cs, h => by
    have hstop (stop : Option Flaw) : (Doc.map seen.reverse stop).Exchanged :=
      .map stop fun member hmember => h member (List.mem_reverse.mp hmember)
    unfold readMembers
    extract_lets stop member
    have hmember (cs : List Char) : (member cs).1.Exchanged := by
      unfold member
      split
      · exact hstop _
      · exact hstop _
      · extract_lets miss
        have hmiss (fault : TextFault) : (miss fault).1.Exchanged := hstop _
        split
        · exact hmiss _
        · rename_i rest _
          have hdoc := readValue_exchanged fuel rest
          split
          · rename_i doc rest hread
            rw [hread] at hdoc
            refine readMembers_exchanged fuel _ _ _ fun member hmember => ?_
            rcases List.mem_cons.mp hmember with rfl | hmember
            · exact hdoc
            · exact h member hmember
          · rename_i doc hread
            rw [hread] at hdoc
            refine .map _ fun member hmember => ?_
            rcases List.mem_cons.mp (List.mem_reverse.mp hmember) with rfl | hmember
            · exact hdoc
            · exact h member hmember
        · exact hmiss _
    split
    · exact hstop _
    · split
      · exact hstop _
      · split
        · split
          · exact hmember _
          · exact hstop _
        · split
          · split
            · exact hstop _
            · exact hmember _
            · exact hstop _
            · exact hstop _
          · exact hstop _

end

end Json

/-! ## Values -/

namespace Decoder

open Reading Json

theorem follow_yields {doc : Doc} (h : doc.Exchanged) : (follow doc).Yields (· = doc) := by
  cases h with
  | _ => exact yields_pure rfl

theorem ofEntries_proper {members : List (String × Json)} (h : ∀ e ∈ members, e.2.Proper) :
    (Json.ofEntries members).Proper :=
  ⟨(Table.ofList members).rising.nodup, everyMember_iff.mpr (Table.all_iff_entries.mp (Table.all_ofList h))⟩

/-- What is read of a document that comes from text is proper. -/
theorem valueWithin_proper (manner : Manner) : ∀ (room : Nat) {doc : Doc}, doc.Exchanged →
    (valueWithin manner room doc).Yields Json.Proper := by
  intro room
  induction room with
  | zero =>
    intro doc h
    unfold valueWithin
    refine (follow_yields h).bind fun doc' heq => ?_
    subst heq
    cases h with
    | null => exact yields_pure trivial
    | bool b => exact yields_pure trivial
    | num hn => exact yields_pure hn
    | str s => exact yields_pure trivial
    | seq stop hitems => exact yields_failAtAll _
    | map stop hmembers => exact yields_failAtAll _
    | broken flaw => exact yields_fail _
  | succ room ih =>
    intro doc h
    unfold valueWithin
    refine (follow_yields h).bind fun doc' heq => ?_
    subst heq
    cases h with
    | null => exact yields_pure trivial
    | bool b => exact yields_pure trivial
    | num hn => exact yields_pure hn
    | str s => exact yields_pure trivial
    | seq stop hitems =>
      refine (yields_mapM (Q := Json.Proper) fun item hitem => ?_).bind fun items hvalues => ?_
      · exact (ih (hitems _ (List.fst_mem_of_mem_zipIdx hitem))).turn
      · exact Yields.bind_any fun _ => yields_pure (everyItem_iff.mpr hvalues)
    | map stop hmembers =>
      refine (yields_mapM (Q := fun e => Json.Proper e.2) fun member hmember => ?_).bind fun members hvalues => ?_
      · exact Yields.bind_any fun k => (ih (hmembers _ hmember)).turn.bind fun a ha => yields_pure ha
      · exact Yields.bind_any fun _ => yields_pure (ofEntries_proper hvalues)
    | broken flaw => exact yields_fail _

end Decoder

namespace Json

/-- The document of a text. -/
theorem ofText_exchanged (text : String) : (Doc.ofText text).1.Exchanged := by
  unfold Doc.ofText
  extract_lets cs
  have h := readValue_exchanged (2 * cs.length + 4) cs
  split
  · rename_i hread
    rwa [hread] at h
  · rename_i hread
    rwa [hread] at h

/-- Whatever text is read as a value, the value is proper. -/
theorem ofText_proper {text : String} {j : Json} (h : ofText text = .ok j) : j.Proper := by
  refine Decoder.ofText_yields (d := Decoder.json) ?_ h
  exact Reading.Yields.bind_any fun p => Decoder.valueWithin_proper .direct p.room (ofText_exchanged text)

end Json

end Rollout
