import Rollout.Proofs.Doc.Members

/-!
# Rollout.Proofs.Doc.Closed — records that pass over further members

Outside configuration files a record may be given as an object or as a list of its members, and the value of an
enumeration by its name or by an object from the name to nothing.

* `Decoder.enumeration_decides`: the values in memory that name a value.
* `Decoder.refine_decides`: what is read with a further check.
* `Decoder.skip_reads`: a value in memory is passed over.
* `ReadsAs.closed`, `ReadsAs.closed_items`: what an object and a list are read as.
-/

namespace Rollout

open Reading

variable {α β : Type}

/-! ## Enumerations -/

/-- The value that a document names, by the name alone or by an object from the name to nothing. -/
def Json.named? (known : List (String × α)) : Json → Option α
  | str s => (known.find? (·.1 = s)).map Prod.snd
  | obj [(s, null)] => (known.find? (·.1 = s)).map Prod.snd
  | _ => none

theorem Json.found_toDoc (j : Json) : j.toDoc.found = .null ↔ j = .null := by
  cases j <;> simp [toDoc, Doc.found]

theorem Json.follow_toDoc (j : Json) (p : Place) : (follow j.toDoc).Gives p j.toDoc := by
  cases j <;> exact gives_pure _ p

theorem Decoder.enumeration_decides (known : List (String × α)) :
    (enumeration known).Decides (Json.named? known) := by
  intro j p hp
  unfold enumeration
  refine Decides.bind (o := some p.source.origin) (g := fun _ => Json.named? known j) (fun _ => rfl) fun origin h => ?_
  refine Decides.bind (o := some _) (g := fun _ => Json.named? known j) (Json.follow_toDoc j p) fun doc hdoc => ?_
  cases hdoc
  rw [← Option.some.inj h, hp.origin]
  cases j with
  | str s =>
    simp only [Json.named?, Json.toDoc]
    cases known.find? (·.1 = s) with
    | none => exact fails_fail _ p
    | some e => exact gives_pure e.2 p
  | obj members =>
    rcases members with _ | ⟨⟨s, a⟩, _ | ⟨⟨k', a'⟩, more⟩⟩
    · exact fails_fail _ p
    · have hread : Json.named? known (.obj [(s, a)]) = ((known.find? (·.1 = s)).map Prod.snd).bind fun b =>
          if a.toDoc.found = .null then some b else none := by
        by_cases ha : a = .null
        · subst ha
          simp [Json.named?, Json.found_toDoc]
        · have hnone : Json.named? known (.obj [(s, a)]) = none := by
            cases a with
            | null => exact absurd rfl ha
            | _ => rfl
          simp [hnone, Json.found_toDoc, ha]
      rw [hread]
      simp only [Json.toDoc, Json.membersToDocs]
      refine Decides.bind ?_ fun b _ => ?_
      · cases known.find? (·.1 = s) with
        | none => exact fails_fail _ p
        | some e => exact gives_pure e.2 p
      · split
        · exact gives_pure b p
        · exact fails_fail _ p
    · have hnone : Json.named? known (.obj ((s, a) :: (k', a') :: more)) = none := by simp [Json.named?]
      rw [hnone]
      exact fails_fail _ p
  | _ => exact fails_fail _ p

/-- What is read with a further check is what passes it. -/
theorem Decoder.refine_decides {d : Decoder α} {doc : Doc} {p : Place} {o : Option α} (h : (d doc).Decides p o)
    (f : α → Except String β) : (d.refine f doc).Decides p (o.bind fun a => (f a).toOption) := by
  refine h.bind fun a _ => ?_
  cases f a with
  | ok b => exact gives_pure b p
  | error message => exact fails_fail _ p

/-! ## Passing over -/

namespace Decoder

mutual

theorem skipped_toDoc : ∀ j : Json, skipped j.toDoc = .ok ()
  | .null => rfl
  | .bool _ => rfl
  | .num _ => rfl
  | .str _ => rfl
  | .arr items => by
    rw [Json.toDoc, skipped, skippedItems_toDocs items]
    rfl
  | .obj members => by
    rw [Json.toDoc, skipped, skippedMembers_toDocs members]
    rfl

theorem skippedItems_toDocs : ∀ items : List Json, skippedItems (Json.itemsToDocs items) = .ok ()
  | [] => rfl
  | a :: as => by
    rw [Json.itemsToDocs, skippedItems, skipped_toDoc a]
    exact skippedItems_toDocs as

theorem skippedMembers_toDocs : ∀ members : List (String × Json), skippedMembers (Json.membersToDocs members) = .ok ()
  | [] => rfl
  | (k, a) :: rest => by
    rw [Json.membersToDocs, skippedMembers, skipped_toDoc a]
    exact skippedMembers_toDocs rest

end

/-- A value in memory is passed over. -/
theorem skip_reads (j : Json) : skip.Reads j.toDoc () := by
  intro p
  unfold skip
  rw [skipped_toDoc]
  exact gives_pure () p

end Decoder

namespace Fields

variable {members : List (String × Json)} {room : Nat}

/-! ## Records given as objects -/

/-- An object is read as a record as its members are, and the further ones are passed over. -/
theorem ReadsAs.closed {fields : Fields α} {o : Option α} (h : fields.ReadsAs members o) (name : String) {p : Place}
    (hp : p.Holds (Json.obj members).depth) : (Fields.closed name fields (Json.obj members).toDoc).Decides p o := by
  obtain ⟨rest, hrecord⟩ := h.ofMembers (fun _ _ doc => Decoder.skip doc) hp
    (fun _ _ _ e _ => ⟨(), Decoder.skip_reads e.2 _⟩) ()
  have hmap : o = (o.map (·, rest)).map Prod.fst := by cases o <;> rfl
  rw [hmap]
  unfold Fields.closed
  refine Decides.bind (o := some p.source.origin) (g := fun _ => _) (fun _ => rfl) fun _ _ => ?_
  refine Decides.bind (o := some _) (g := fun _ => _) (gives_pure _ p) fun doc hdoc => ?_
  cases hdoc
  exact hrecord.map Prod.fst

/-! ## Records given as lists -/

/-- What a part of a record amounts to does not depend on how the members are given. -/
def Alike (fields : Fields α) : Prop :=
  ∀ given held, (fields.build given held).toOption = (fields.build .byName held).toOption

theorem pure_alike (a : α) : (pure a : Fields α).Alike := fun _ _ => rfl

theorem required_alike (name : String) (d : Decoder α) : (required name d).Alike := by
  intro given held
  cases held <;> rfl

theorem optional_alike (name : String) (d : Decoder α) : (optional name d).Alike := fun _ _ => rfl

theorem Alike.seq {f : Fields (α → β)} {x : Fields α} (hf : f.Alike) (hx : x.Alike) : (f <*> x).Alike := by
  rintro given ⟨held, held'⟩
  have hbuild (given : Arrangement) : ((f <*> x).build given (held, held')).toOption =
      (f.build given held).toOption.bind fun g => (x.build given held').toOption.map g := by
    have h : (f <*> x).build given (held, held') = (f.build given held).bind fun g => (x.build given held').map g := rfl
    rw [h]
    cases f.build given held <;> cases x.build given held' <;> rfl
  rw [hbuild, hbuild, hf, hx]

theorem depth_zip_le (names : List String) (items : List Json) :
    Json.depthOfMembers (names.zip items) ≤ Json.depthOfItems items := by
  induction names generalizing items with
  | nil => exact Nat.zero_le _
  | cons name names ih =>
    cases items with
    | nil => exact Nat.le_refl _
    | cons a items =>
      have hrest := ih items
      show max a.depth (Json.depthOfMembers (names.zip items)) ≤ max a.depth (Json.depthOfItems items)
      omega

theorem length_itemsToDocs (items : List Json) : (Json.itemsToDocs items).length = items.length := by
  induction items with
  | nil => rfl
  | cons a items ih => rw [Json.itemsToDocs, List.length_cons, ih, List.length_cons]

/-- The items of a list take the names of the members in turn. -/
theorem Settles.walkItems {fields : Fields α} {held : fields.Held} {names : List String} {items : List Json}
    {o : Option fields.Held} (h : fields.Settles room held (names.zip items) o) {p : Place} (hp : p.Holds room) :
    (Fields.walkItems fields held names (Json.itemsToDocs items)).Decides p o := by
  induction names generalizing held items with
  | nil =>
    cases h
    exact gives_pure held p
  | cons name names ih =>
    cases items with
    | nil =>
      cases h
      exact gives_pure held p
    | cons a items =>
      unfold Json.itemsToDocs Fields.walkItems
      cases h with
      | pass hpass hmore =>
        rw [hpass]
        exact ih hmore
      | read htake hread hmore =>
        rw [htake]
        refine Decides.bind (o := some _) (g := fun _ => _) (hread p hp) fun held' hheld' => ?_
        cases hheld'
        exact ih hmore
      | refused htake hrefused =>
        rw [htake]
        exact Fails.bind (hrefused p hp) _

/-- What was read of a list stands, unless items are left over. -/
theorem leftover_decides (fields : Fields α) (items : List Json) (result : α) {p : Place}
    (horigin : p.source.origin = .value) : (if fields.names.length < items.length then do
        match ← Reading.origin with
        | .value => fail (.length items.length "fewer elements in array")
        | _ => fail (.text .trailingCharacters)
      else if items.length = fields.names.length then pure result else pure result : Reading α).Decides p
      (if items.length ≤ fields.names.length then some result else none) := by
  by_cases hmany : fields.names.length < items.length
  · rw [if_pos hmany, if_neg (Nat.not_le.mpr hmany)]
    refine Decides.bind (o := some p.source.origin) (g := fun _ => none) (fun _ => rfl) fun origin h => ?_
    rw [← Option.some.inj h, horigin]
    exact fails_fail _ p
  · rw [if_neg hmany, if_pos (Nat.not_lt.mp hmany), ite_self]
    exact gives_pure result p

/-- A list is read as the record of its items under the names of the members, unless there are too many. -/
theorem ReadsAs.closed_items {fields : Fields α} {items : List Json} {o : Option α}
    (h : fields.ReadsAs (fields.names.zip items) o) (halike : fields.Alike) (name : String) {p : Place}
    (hp : p.Holds (Json.arr items).depth) : (Fields.closed name fields (Json.arr items).toDoc).Decides p
      (if items.length ≤ fields.names.length then o else none) := by
  obtain ⟨held, hsettles, rfl⟩ := h
  obtain ⟨room, hroom, hp'⟩ : ∃ room, p.room = room + 1 ∧
      { p with room }.Holds (Json.depthOfMembers (fields.names.zip items)) := by
    have hdepth : Json.depthOfItems items + 1 ≤ p.room := hp.room
    have hzip := depth_zip_le fields.names items
    exact ⟨p.room - 1, by omega, hp.origin, by show _ ≤ p.room - 1; omega⟩
  have hbuild : (if items.length ≤ fields.names.length then held.bind fun h => (fields.build .byName h).toOption
      else none) = held.bind fun h => if items.length ≤ fields.names.length then (fields.build .byName h).toOption
        else none := by
    cases held <;> simp
  have hitems : (Fields.ofItems name fields (Json.itemsToDocs items) none).Decides p
      (held.bind fun h => if items.length ≤ fields.names.length then (fields.build .byName h).toOption else none) := by
    unfold Fields.ofItems
    refine Decides.enter hroom ((hsettles.walkItems hp').bind fun h _ => ?_)
    have hresult (given : Arrangement) : (if items.length ≤ fields.names.length then
        (fields.build .byName h).toOption else none) = (fields.build given h).toOption.bind fun result =>
          if items.length ≤ fields.names.length then some result else none := by
      rw [halike given h]
      split <;> simp
    dsimp only
    rw [length_itemsToDocs, hresult]
    have hfirst : (endAt none : Reading Unit).Gives { p with room } () := gives_pure () _
    split
    · exact Decides.bind (o := some ()) (g := fun _ => _) hfirst fun _ _ =>
        (decides_ofExcept _ _).bind fun result _ => leftover_decides fields items result hp.origin
    · exact (decides_ofExcept _ _).bind fun result _ => leftover_decides fields items result hp.origin
  rw [hbuild]
  unfold Fields.closed
  refine Decides.bind (o := some p.source.origin) (g := fun _ => _) (fun _ => rfl) fun origin horigin => ?_
  refine Decides.bind (o := some _) (g := fun _ => _) (gives_pure _ p) fun doc hdoc => ?_
  cases hdoc
  rw [← Option.some.inj horigin, hp.origin]
  exact hitems

/-- Only an object or a list is read as a record that passes over further members. -/
theorem closed_fails {fields : Fields α} {j : Json} (hobj : ∀ members, j ≠ .obj members)
    (harr : ∀ items, j ≠ .arr items) (name : String) {p : Place} (hp : p.source.origin = .value) : (Fields.closed name fields j.toDoc).Fails p := by
  unfold Fields.closed
  refine Gives.bind_fails (a := p.source.origin) (fun _ => rfl) ?_
  refine Gives.bind_fails (Json.follow_toDoc j p) ?_
  rw [hp]
  cases j with
  | obj members => exact absurd rfl (hobj members)
  | arr items => exact absurd rfl (harr items)
  | _ => exact fails_fail _ p

end Fields

end Rollout
