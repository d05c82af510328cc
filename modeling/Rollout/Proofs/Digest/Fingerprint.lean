import Rollout.Proofs.Json.Proper
import Rollout.Proofs.Json.Quoted
import Rollout.Proofs.Json.Reordered
import Rollout.Proofs.Text.Order

/-!
# Rollout.Proofs.Digest.Fingerprint — what a fingerprint tells

The text that is digested for a document begins with a character that tells its kind, and where a part of it ends can be
told from what follows.  Only a key is neither quoted nor closed by anything but its colon, so the text tells which
document it is as long as no key holds a colon or could be taken for the end of its object.

* `Json.Plain`: documents without such keys.
* `preimage_append_inj`: where the text of a plain document ends, and which one it is.
* `Collide`: two byte strings of one digest.
* `told_of_read`: what two fingerprints tell of documents that were read from text.
* `Detects`, `detects`: what they tell of documents in general.
* `key_disguised`: a key that passes for a member.
-/

namespace Rollout

namespace Json

/-- A key that holds no colon and does not begin with a closing brace. -/
def PlainKey (k : String) : Prop := ':' ∉ k.toList ∧ k.toList.head? ≠ some '\x7d'

instance (k : String) : Decidable (PlainKey k) := inferInstanceAs (Decidable (_ ∧ _))

/-- All of some keys are plain. -/
def PlainKeys (keys : List String) : Prop := ∀ k ∈ keys, PlainKey k

instance (keys : List String) : Decidable (PlainKeys keys) := inferInstanceAs (Decidable (∀ k ∈ keys, PlainKey k))

/-- A document all of whose keys are plain. -/
def Plain (j : Json) : Prop := j.Every (fun _ => True) PlainKeys

theorem Plain.sort {j : Json} (h : j.Plain) (hj : j.Proper) : j.sort.Plain :=
  (reordered_sort hj).every (fun _ _ hperm hkeys k hk => hkeys k (hperm.mem_iff.mpr hk)) h

theorem Proper.sort {j : Json} (h : j.Proper) : j.sort.Proper := (reordered_sort h).proper h

/-- A document whose numbers are finite and whose keys are plain. -/
def Told (j : Json) : Prop := j.Every Number.Representable PlainKeys

theorem Proper.told {j : Json} (h : j.Proper) (hplain : j.Plain) : j.Told := h.combine hplain

/-- A quoted text ends with its closing quote. -/
theorem quote_append_inj {s t : String} {r u : List Char} (h : (quote s).toList ++ r = (quote t).toList ++ u) :
    s = t ∧ r = u := by
  have hquote (s : String) (r : List Char) :
      (quote s).toList ++ r = '"' :: (s.toList.flatMap quoteChar ++ '"' :: r) := by
    rw [quote, String.toList_ofList]
    simp
  rw [hquote, hquote] at h
  have hpiece := stringPiece_quote s r
  rw [(List.cons.inj h).2, stringPiece_quote] at hpiece
  obtain ⟨ht, hu⟩ := Prod.mk.inj hpiece
  exact ⟨(Except.ok.inj ht).symm, (Option.some.inj hu).symm⟩

end Json

namespace Fingerprint

open Json

/-! ## The kind of a document -/

/-- The kinds of documents. -/
inductive Kind
  | null | bool | num | str | arr | obj
deriving DecidableEq

def kind : Json → Kind
  | .null => .null
  | .bool _ => .bool
  | .num _ => .num
  | .str _ => .str
  | .arr _ => .arr
  | .obj _ => .obj

/-- The kind of the documents whose text begins with a character. -/
def kindAt? (c : Char) : Option Kind :=
  if c = 'n' then some .null
  else if c = 't' ∨ c = 'f' then some .bool
  else if c = '"' then some .str
  else if c = '[' then some .arr
  else if c = '\x7b' then some .obj
  else if c.isDigit ∨ c = '-' then some .num
  else none

theorem kindAt?_number {c : Char} (h : c.isDigit = true ∨ c = '-') : kindAt? c = some .num := by
  have hne (m : Char) (hdigit : m.isDigit = false) (hdash : m ≠ '-') : c ≠ m := by
    rintro rfl
    rcases h with h | h
    · rw [hdigit] at h
      exact nomatch h
    · exact hdash h
  unfold kindAt?
  rw [if_neg (hne 'n' rfl (by decide)), if_neg (not_or.mpr ⟨hne 't' rfl (by decide), hne 'f' rfl (by decide)⟩),
    if_neg (hne '"' rfl (by decide)), if_neg (hne '[' rfl (by decide)), if_neg (hne '\x7b' rfl (by decide)), if_pos h]

theorem toList_arr (items : List Json) :
    (preimage (.arr items)).toList = '[' :: ((preimageItems items).toList ++ [']']) := by
  rw [preimage, String.toList_append, String.toList_append]
  rfl

theorem toList_obj (members : List (String × Json)) :
    (preimage (.obj members)).toList = '\x7b' :: ((preimageMembers members).toList ++ ['\x7d']) := by
  rw [preimage, String.toList_append, String.toList_append]
  rfl

/-- The text of a document begins with a character that tells its kind. -/
theorem preimage_begins (j : Json) : ∃ c rest, (preimage j).toList = c :: rest ∧ kindAt? c = some (kind j) := by
  cases j with
  | null => exact ⟨'n', _, rfl, rfl⟩
  | bool b => cases b with
    | true => exact ⟨'t', _, rfl, rfl⟩
    | false => exact ⟨'f', _, rfl, rfl⟩
  | num n =>
    obtain ⟨c, rest, hcons, hc⟩ := n.text_begins
    exact ⟨c, rest, hcons, kindAt?_number hc⟩
  | str s =>
    have hquote : (preimage (.str s)).toList = '"' :: (s.toList.flatMap quoteChar ++ ['"']) := String.toList_ofList
    exact ⟨'"', _, hquote, rfl⟩
  | arr items => exact ⟨'[', _, toList_arr items, rfl⟩
  | obj members => exact ⟨'\x7b', _, toList_obj members, rfl⟩

theorem kind_eq {a b : Json} {r s : List Char} (h : (preimage a).toList ++ r = (preimage b).toList ++ s) :
    kind a = kind b := by
  obtain ⟨c, rest, hc, hkind⟩ := preimage_begins a
  obtain ⟨d, rest', hd, hkind'⟩ := preimage_begins b
  rw [hc, hd] at h
  rw [(List.cons.inj h).1] at hkind
  exact Option.some.inj (hkind.symm.trans hkind')

/-! ## Where a document ends -/

/-- What may follow a document. -/
def Ends (r : List Char) : Prop := ∀ c ∈ r.head?, c = ','

theorem ends_comma (r : List Char) : Ends (',' :: r) := fun c hc => by
  cases hc
  rfl

theorem toList_items (a : Json) (as : List Json) (r : List Char) : (preimageItems (a :: as)).toList ++ r =
    (preimage a).toList ++ ',' :: ((preimageItems as).toList ++ r) := by
  have hcomma : ",".toList = [','] := rfl
  rw [preimageItems, String.toList_append, String.toList_append, hcomma]
  simp

theorem toList_members (k : String) (a : Json) (as : List (String × Json)) (r : List Char) :
    (preimageMembers ((k, a) :: as)).toList ++ r =
      k.toList ++ ':' :: ((preimage a).toList ++ ',' :: ((preimageMembers as).toList ++ r)) := by
  have hcomma : ",".toList = [','] := rfl
  have hcolon : ":".toList = [':'] := rfl
  rw [preimageMembers, String.toList_append, String.toList_append, String.toList_append, String.toList_append, hcomma,
    hcolon]
  simp

/-- No item begins with the bracket that closes a list. -/
theorem items_ne_close (a : Json) (as : List Json) (r s : List Char) :
    (preimageItems (a :: as)).toList ++ r ≠ ']' :: s := by
  obtain ⟨c, rest, hc, hkind⟩ := preimage_begins a
  rw [toList_items, hc]
  intro h
  rw [(List.cons.inj h).1] at hkind
  exact nomatch hkind

/-- No member with a plain key begins with the brace that closes an object. -/
theorem members_ne_close {k : String} (hk : PlainKey k) (a : Json) (as : List (String × Json)) (r s : List Char) :
    (preimageMembers ((k, a) :: as)).toList ++ r ≠ '\x7d' :: s := by
  rw [toList_members]
  intro h
  cases hcs : k.toList with
  | nil =>
    rw [hcs] at h
    exact absurd (List.cons.inj h).1 (by decide)
  | cons c cs =>
    rw [hcs] at h
    exact hk.2 (by rw [hcs, (List.cons.inj h).1]; rfl)

theorem num_append_inj {m n : Number} {r s : List Char} (hm : m.Representable) (hn : n.Representable) (hr : Ends r)
    (hs : Ends s) (h : m.text.toList ++ r = n.text.toList ++ s) : m = n ∧ r = s := by
  have hcomma (n : Number) : ∀ c ∈ n.text.toList, c ≠ ',' := by
    rintro c hc rfl
    exact absurd (n.text_chars _ hc) (by simp [NumberChar])
  obtain ⟨htext, hrest⟩ := mark_cancel (hcomma m) (hcomma n) hr hs h
  exact ⟨Number.text_inj hm hn (String.toList_inj.mp htext), hrest⟩

mutual

/-- The text of a plain document ends where nothing else could, and tells which document it is. -/
theorem preimage_append_inj : ∀ {a b : Json} {r s : List Char}, a.Told → b.Told → Ends r → Ends s →
    (preimage a).toList ++ r = (preimage b).toList ++ s → a = b ∧ r = s
  | .null, b, r, s, _, _, _, _, h => by
    have hkind := kind_eq h
    cases b with
    | null => exact ⟨rfl, List.append_cancel_left h⟩
    | _ => exact nomatch hkind
  | .bool x, b, r, s, _, _, _, _, h => by
    have hkind := kind_eq h
    cases b with
    | bool y =>
      cases x <;> cases y
      · exact ⟨rfl, List.append_cancel_left h⟩
      · exact absurd (List.cons.inj h).1 (by decide)
      · exact absurd (List.cons.inj h).1 (by decide)
      · exact ⟨rfl, List.append_cancel_left h⟩
    | _ => exact nomatch hkind
  | .num m, b, r, s, ha, hb, hr, hs, h => by
    have hkind := kind_eq h
    cases b with
    | num n =>
      obtain ⟨rfl, hrest⟩ := num_append_inj ha hb hr hs h
      exact ⟨rfl, hrest⟩
    | _ => exact nomatch hkind
  | .str t, b, r, s, _, _, _, _, h => by
    have hkind := kind_eq h
    cases b with
    | str u =>
      obtain ⟨rfl, hrest⟩ := quote_append_inj h
      exact ⟨rfl, hrest⟩
    | _ => exact nomatch hkind
  | .arr as, b, r, s, ha, hb, _, _, h => by
    have hkind := kind_eq h
    cases b with
    | arr bs =>
      rw [toList_arr, toList_arr, List.cons_append, List.cons_append, List.append_assoc, List.append_assoc] at h
      obtain ⟨rfl, hrest⟩ := preimageItems_append_inj ha hb (List.cons.inj h).2
      exact ⟨rfl, hrest⟩
    | _ => exact nomatch hkind
  | .obj as, b, r, s, ha, hb, _, _, h => by
    have hkind := kind_eq h
    cases b with
    | obj bs =>
      rw [toList_obj, toList_obj, List.cons_append, List.cons_append, List.append_assoc, List.append_assoc] at h
      obtain ⟨rfl, hrest⟩ := preimageMembers_append_inj ha.1 hb.1 ha.2 hb.2 (List.cons.inj h).2
      exact ⟨rfl, hrest⟩
    | _ => exact nomatch hkind

theorem preimageItems_append_inj : ∀ {as bs : List Json} {r s : List Char},
    EveryItem Number.Representable PlainKeys as →
    EveryItem Number.Representable PlainKeys bs →
    (preimageItems as).toList ++ ']' :: r = (preimageItems bs).toList ++ ']' :: s → as = bs ∧ r = s
  | [], [], _, _, _, _, h => ⟨rfl, (List.cons.inj h).2⟩
  | [], b :: bs, _, _, _, _, h => absurd h.symm (items_ne_close b bs _ _)
  | a :: as, [], _, _, _, _, h => absurd h (items_ne_close a as _ _)
  | a :: as, b :: bs, r, s, ha, hb, h => by
    rw [toList_items, toList_items] at h
    obtain ⟨rfl, has⟩ := preimage_append_inj ha.1 hb.1 (ends_comma _) (ends_comma _) h
    obtain ⟨rfl, hrest⟩ := preimageItems_append_inj ha.2 hb.2 (List.cons.inj has).2
    exact ⟨rfl, hrest⟩

theorem preimageMembers_append_inj : ∀ {as bs : List (String × Json)} {r s : List Char},
    PlainKeys (as.map Prod.fst) → PlainKeys (bs.map Prod.fst) →
    EveryMember Number.Representable PlainKeys as →
    EveryMember Number.Representable PlainKeys bs →
    (preimageMembers as).toList ++ '\x7d' :: r = (preimageMembers bs).toList ++ '\x7d' :: s → as = bs ∧ r = s
  | [], [], _, _, _, _, _, _, h => ⟨rfl, (List.cons.inj h).2⟩
  | [], (k, b) :: bs, _, _, _, hkeys, _, _, h =>
    absurd h.symm (members_ne_close (hkeys k List.mem_cons_self) b bs _ _)
  | (k, a) :: as, [], _, _, hkeys, _, _, _, h => absurd h (members_ne_close (hkeys k List.mem_cons_self) a as _ _)
  | (k, a) :: as, (k', b) :: bs, r, s, hkeys, hkeys', ha, hb, h => by
    rw [toList_members, toList_members] at h
    have hmark (r : List Char) : ∀ c ∈ (':' :: r).head?, c = ':' := fun c hc => by
      cases hc
      rfl
    have hcolon {k : String} (hk : PlainKey k) : ∀ c ∈ k.toList, c ≠ ':' := fun c hc => ne_of_mem_of_not_mem hc hk.1
    obtain ⟨hk, hvalue⟩ := mark_cancel (hcolon (hkeys k List.mem_cons_self)) (hcolon (hkeys' k' List.mem_cons_self))
      (hmark _) (hmark _) h
    obtain rfl := String.toList_inj.mp hk
    obtain ⟨rfl, has⟩ := preimage_append_inj ha.1 hb.1 (ends_comma _) (ends_comma _) (List.cons.inj hvalue).2
    obtain ⟨rfl, hrest⟩ := preimageMembers_append_inj (fun k hk => hkeys k (List.mem_cons_of_mem _ hk))
      (fun k hk => hkeys' k (List.mem_cons_of_mem _ hk)) ha.2 hb.2 (List.cons.inj has).2
    exact ⟨rfl, hrest⟩

end

/-! ## Fingerprints -/

/-- The bytes that are digested for a document. -/
def bytes (j : Json) : List UInt8 := Text.encode (preimage j.sort)

/-- Two byte strings that the digest does not tell apart. -/
def Collide (s t : List UInt8) : Prop := s ≠ t ∧ Digest.sha256Hex s = Digest.sha256Hex t

/-- What the bytes that are digested for two documents, and their fingerprints, tell of them. -/
structure Detects (a b : Json) : Prop where
  /-- The order of members does not matter, whatever the keys are. -/
  reordered : a.Reordered b → bytes a = bytes b ∧ ofJson a = ofJson b
  /-- If the keys are plain, no other change is lost in the bytes. -/
  bytes_told : a.Plain → b.Plain → (bytes a = bytes b ↔ a.Reordered b)
  /-- Then a change is only lost to the fingerprints if the digest does not tell the bytes apart. -/
  told : a.Plain → b.Plain → (ofJson a = ofJson b ↔ a.Reordered b ∨ Collide (bytes a) (bytes b))

variable {a b : Json}

theorem bytes_eq_iff (ha : a.Proper) (hb : b.Proper) (hpa : a.Plain) (hpb : b.Plain) :
    bytes a = bytes b ↔ a.Reordered b := by
  rw [reordered_iff_sort_eq ha hb, bytes, bytes, Text.encode_inj]
  refine ⟨fun h => ?_, fun h => congrArg preimage h⟩
  have hend : Ends [] := fun c hc => nomatch hc
  exact (preimage_append_inj (ha.sort.told (hpa.sort ha)) (hb.sort.told (hpb.sort hb)) hend hend
    (congrArg (fun s => s.toList ++ []) h)).1

theorem ofJson_eq_iff (a b : Json) : ofJson a = ofJson b ↔ bytes a = bytes b ∨ Collide (bytes a) (bytes b) := by
  have hdigest (j : Json) : ofJson j = Digest.sha256Hex (bytes j) := rfl
  rw [hdigest, hdigest]
  constructor
  · intro h
    by_cases hbytes : bytes a = bytes b
    · exact .inl hbytes
    · exact .inr ⟨hbytes, h⟩
  · rintro (h | h)
    · rw [h]
    · exact h.2

/-- Of two documents that were read from text and whose keys are plain, the bytes and the fingerprints lose no change
that the digest does not lose. -/
theorem told_of_read {s t : String} (ha : Json.ofText s = .ok a) (hb : Json.ofText t = .ok b) (hpa : a.Plain)
    (hpb : b.Plain) : (bytes a = bytes b ↔ a.Reordered b) ∧
      (ofJson a = ofJson b ↔ a.Reordered b ∨ Collide (bytes a) (bytes b)) := by
  have hbytes := bytes_eq_iff (Json.ofText_proper ha) (Json.ofText_proper hb) hpa hpb
  exact ⟨hbytes, by rw [ofJson_eq_iff, hbytes]⟩

/-- Fingerprints do not depend on the order of members, and of documents with plain keys they lose no change that the
digest does not lose. -/
theorem detects (ha : a.Proper) (hb : b.Proper) : Detects a b where
  reordered h := by
    have hbytes : bytes a = bytes b := by rw [bytes, bytes, h.sort_eq ha]
    exact ⟨hbytes, (ofJson_eq_iff a b).mpr (.inl hbytes)⟩
  bytes_told := bytes_eq_iff ha hb
  told hpa hpb := by rw [ofJson_eq_iff, bytes_eq_iff ha hb hpa hpb]

/-- A text at some depth is changed, or two members change places. -/
theorem detects_channel :
    let stable : Json := .obj [("mysql", .obj [("channel", .str "8.0/stable")]), ("units", .arr [.int 1])]
    let swapped : Json := .obj [("units", .arr [.int 1]), ("mysql", .obj [("channel", .str "8.0/stable")])]
    let edge : Json := .obj [("mysql", .obj [("channel", .str "8.0/edge")]), ("units", .arr [.int 1])]
    (Detects stable swapped ∧ ofJson stable = ofJson swapped) ∧
      Detects stable edge ∧ ofJson stable ≠ ofJson edge ∧ ¬ stable.Reordered edge := by
  intro stable swapped edge
  have hstable : stable.Proper := ⟨by decide, ⟨by decide, trivial, trivial⟩, ⟨trivial, trivial⟩, trivial⟩
  have hswapped : swapped.Proper := ⟨by decide, ⟨trivial, trivial⟩, ⟨by decide, trivial, trivial⟩, trivial⟩
  have hedge : edge.Proper := ⟨by decide, ⟨by decide, trivial, trivial⟩, ⟨trivial, trivial⟩, trivial⟩
  have hplain : stable.Plain :=
    ⟨by decide, ⟨by decide, trivial, trivial⟩, ⟨trivial, trivial⟩, trivial⟩
  have hplain' : edge.Plain :=
    ⟨by decide, ⟨by decide, trivial, trivial⟩, ⟨trivial, trivial⟩, trivial⟩
  have hswap : Detects stable swapped := detects hstable hswapped
  have hchange : Detects stable edge := detects hstable hedge
  have hdigests : ofJson stable ≠ ofJson edge := by decide +kernel
  refine ⟨⟨hswap, (hswap.reordered (.members (.swap _ _ _))).2⟩, hchange, hdigests, fun h => ?_⟩
  exact hdigests ((hchange.told hplain hplain').mpr (.inl h))

/-- A key can pass for a member and its value, and two members for one. -/
theorem key_disguised : ¬ ∀ a b : Json, a.Proper → b.Proper → bytes a = bytes b → a.Reordered b := by
  intro h
  let a : Json := .obj [("a", .int 1), ("b", .int 2)]
  let b : Json := .obj [("a:1,b", .int 2)]
  have ha : a.Proper := ⟨by decide, trivial, trivial, trivial⟩
  have hb : b.Proper := ⟨by decide, trivial, trivial⟩
  have hsort := (h a b ha hb (by decide +kernel)).sort_eq ha
  exact absurd (congrArg Json.compact hsort) (by decide +kernel)

/-- A key without a colon can pass for the end of its object. -/
example : bytes (.arr [.obj [("\x7d,\x7b", .int 1)]]) = bytes (.arr [.obj [], .obj [("", .int 1)]]) := by
  decide +kernel

end Fingerprint

end Rollout
