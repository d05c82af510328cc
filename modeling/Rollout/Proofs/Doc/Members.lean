import Rollout.Proofs.Doc.Values

/-!
# Rollout.Proofs.Doc.Members — which values in memory are read as a record

A record that is read from an object depends on what each of its names finds there and on nothing else: the order of
the members does not matter, and members of other names are passed over or kept.  So it can be said of every object
whether it is read, and as what.

* `Reading.Decides`: a step of decoding ends with a value, or fails, at a place.
* `Place.Holds`: a place where there is room for a value in memory.
* `Decoder.Decides`: what a decoder makes of every value in memory.
* `Fields.Settles`: what is held of a part of a record after the members of an object, if they can be read.
* `Fields.ReadsAs`, `ReadsAs.spread`: what a part of a record, and a record that keeps the members of other names, is
  read as.
-/

namespace Rollout

variable {α β : Type}

/-! ## Steps that are decided -/

namespace Reading

/-- A step of decoding fails at a place. -/
def Fails (x : Reading α) (p : Place) : Prop := ∀ n, ∃ e, x p n = .error e

/-- A step of decoding ends with a value at a place, or it fails there. -/
def Decides (x : Reading α) (p : Place) : Option α → Prop
  | some a => x.Gives p a
  | none => x.Fails p

variable {x : Reading α} {p : Place} {o : Option α}

theorem fails_fail (fault : DecodeFault) (p : Place) : (fail fault : Reading α).Fails p := fun _ => ⟨_, rfl⟩

theorem Fails.bind (hx : x.Fails p) (f : α → Reading β) : (x >>= f).Fails p := by
  intro n
  obtain ⟨e, he⟩ := hx n
  have h : (x >>= f) p n = (x p n).bind fun r => f r.1 p r.2 := rfl
  exact ⟨e, by rw [h, he]; rfl⟩

theorem Fails.turn {t : Turn} (hx : x.Fails { p with way := t :: p.way }) : (turn t x).Fails p := hx

theorem Gives.bind_fails {a : α} {f : α → Reading β} (hx : x.Gives p a) (hf : (f a).Fails p) : (x >>= f).Fails p := by
  intro n
  obtain ⟨e, he⟩ := hf n
  have h : (x >>= f) p n = (x p n).bind fun r => f r.1 p r.2 := rfl
  exact ⟨e, by rw [h, hx n]; exact he⟩

theorem Decides.bind {f : α → Reading β} {g : α → Option β} (hx : x.Decides p o)
    (hf : ∀ a, o = some a → (f a).Decides p (g a)) : (x >>= f).Decides p (o.bind g) := by
  cases o with
  | none => exact Fails.bind hx f
  | some a =>
    have ha := hf a rfl
    show (x >>= f).Decides p (g a)
    generalize g a = o' at ha ⊢
    cases o' with
    | none => exact Gives.bind_fails hx ha
    | some b => exact Gives.bind hx ha

theorem decides_pure (a : α) (p : Place) : (pure a : Reading α).Decides p (some a) := gives_pure a p

theorem Decides.map (hx : x.Decides p o) (f : α → β) : (f <$> x).Decides p (o.map f) := by
  cases o with
  | none =>
    intro n
    obtain ⟨e, he⟩ := hx n
    have h : (f <$> x) p n = (x p n).bind fun r => .ok (f r.1, r.2) := rfl
    exact ⟨e, by rw [h, he]; rfl⟩
  | some a => exact Gives.map hx

theorem Decides.enter {room : Nat} (hroom : p.room = room + 1) (hx : x.Decides { p with room } o) :
    (enter x).Decides p o := by
  cases o with
  | none =>
    intro n
    obtain ⟨e, he⟩ := hx n
    unfold Reading.enter
    rw [hroom]
    exact ⟨e, he⟩
  | some a => exact Gives.enter hroom hx

theorem decides_ofExcept (r : Except DecodeFault α) (p : Place) : (ofExcept r).Decides p r.toOption := by
  cases r with
  | ok a => exact gives_pure a p
  | error fault => exact fails_fail fault p

end Reading

open Reading

/-! ## Scalars -/

namespace Json

/-- The natural number below a bound that a document is. -/
def natBelow? (bound : Nat) : Json → Option Nat
  | num (.int i) => if 0 ≤ i ∧ i < bound then some i.toNat else none
  | _ => none

/-- What a member is read as that may be absent or `null`. -/
def optional? (read? : Json → Option α) : Option Json → Option (Option α)
  | none => some none
  | some .null => some none
  | some j => (read? j).map some

end Json

/-- A value in memory may stand in a place, which has room for so many lists and objects in one another. -/
structure Place.Holds (p : Place) (room : Nat) : Prop where
  origin : p.source.origin = .value
  room : room ≤ p.room

theorem Place.Holds.mono {p : Place} {room room' : Nat} (h : p.Holds room) (hle : room' ≤ room) : p.Holds room' :=
  ⟨h.origin, Nat.le_trans hle h.room⟩

namespace Decoder

/-- What a decoder makes of every value in memory, wherever there is room for it. -/
def Decides (d : Decoder α) (read? : Json → Option α) : Prop :=
  ∀ j p, p.Holds j.depth → (d j.toDoc).Decides p (read? j)

/-- Any value is read, with its members by rising key. -/
theorem json_decides : json.Decides fun j => some j.sort := fun j p hp =>
  show (json j.toDoc).Gives p j.sort from Gives.bind (fun _ => rfl) (valueWithin_gives j p.room hp.room p)

theorem text_decides (expected : String) : (text expected).Decides Json.asStr? := by
  intro j p _
  cases j with
  | str s => exact gives_pure s p
  | _ => exact Gives.bind_fails (gives_pure _ p) (fails_fail _ p)

theorem natBelow_decides (bound : Nat) (expected : String) : (natBelow bound expected).Decides (Json.natBelow? bound) := by
  intro j p _
  cases j with
  | num n =>
    cases n with
    | int i =>
      by_cases h : 0 ≤ i ∧ i < bound
      · have hread : Json.natBelow? bound (.num (.int i)) = some i.toNat := if_pos h
        rw [hread]
        show (natBelow bound expected (.num (.int i))).Gives p i.toNat
        unfold natBelow
        refine Gives.bind (gives_pure _ p) ?_
        dsimp only
        rw [if_pos h]
        exact gives_pure _ p
      · have hread : Json.natBelow? bound (.num (.int i)) = none := if_neg h
        rw [hread]
        show (natBelow bound expected (.num (.int i))).Fails p
        unfold natBelow
        refine Gives.bind_fails (gives_pure _ p) ?_
        dsimp only
        rw [if_neg h]
        exact fails_fail _ p
    | float x => exact Gives.bind_fails (gives_pure _ p) (fails_fail _ p)
  | _ => exact Gives.bind_fails (gives_pure _ p) (fails_fail _ p)

/-- Of `null` nothing is read, and of any other value what the decoder reads. -/
theorem Decides.option {d : Decoder α} {read? : Json → Option α} (h : d.Decides read?) :
    d.option.Decides fun j => Json.optional? read? (some j) := by
  intro j p hp
  cases j with
  | null => exact gives_pure none p
  | _ =>
    refine Decides.bind (o := some _) (g := fun _ => _) (gives_pure _ p) fun doc hdoc => ?_
    cases hdoc
    exact (h _ p hp).map some

end Decoder

/-- What a step makes of the document of a value in memory is what the value is decoded as. -/
theorem Decoder.ofJson_of_decides {d : Decoder α} {j : Json} {o : Option α}
    (h : (d j.toDoc).Decides ⟨.plain .value, j.depth, []⟩ o) : (d.ofJson j).toOption = o := by
  cases o with
  | some a => rw [ofJson_of_gives h]; rfl
  | none =>
    obtain ⟨e, he⟩ := h 0
    unfold ofJson Reading.run StateT.run ReaderT.run
    rw [he]
    rfl

/-! ## Members -/

theorem Json.depth_le_of_mem {members : List (String × Json)} {e : String × Json} (h : e ∈ members) :
    e.2.depth ≤ depthOfMembers members := by
  induction members with
  | nil => cases h
  | cons e' members ih =>
    have hmax : depthOfMembers (e' :: members) = max e'.2.depth (depthOfMembers members) := rfl
    rcases List.mem_cons.mp h with rfl | h
    · omega
    · have := ih h
      omega

/-- A value that is set aside is read, if there is room for it. -/
theorem Decoder.heldJson_gives {j : Json} {p : Place} (h : j.depth ≤ p.room) : (heldJson j.toDoc).Gives p j.sort := by
  unfold heldJson
  exact Gives.bind (fun _ => rfl) (valueWithin_gives j p.room h p)

namespace Fields

/-- What is held of a part of a record after members for which there is room, one after another; nothing if one of them
cannot be read. -/
inductive Settles (fields : Fields α) (room : Nat) : fields.Held → List (String × Json) → Option fields.Held → Prop
  | nil (held : fields.Held) : Settles fields room held [] (some held)
  | pass {held : fields.Held} {k : String} {j : Json} {more : List (String × Json)} {o : Option fields.Held}
    (hpass : fields.take held k j.toDoc = none) (hmore : Settles fields room held more o) :
    Settles fields room held ((k, j) :: more) o
  | read {held held' : fields.Held} {k : String} {j : Json} {more : List (String × Json)} {o : Option fields.Held}
    {taken : Reading fields.Held} (htake : fields.take held k j.toDoc = some taken)
    (hread : ∀ p, p.Holds room → taken.Gives p held') (hmore : Settles fields room held' more o) :
    Settles fields room held ((k, j) :: more) o
  | refused {held : fields.Held} {k : String} {j : Json} {taken : Reading fields.Held}
    (htake : fields.take held k j.toDoc = some taken) (hrefused : ∀ p, p.Holds room → taken.Fails p)
    (more : List (String × Json)) : Settles fields room held ((k, j) :: more) none

variable {room : Nat}

theorem pure_settles (a : α) (held : (pure a : Fields α).Held) (members : List (String × Json)) :
    (pure a : Fields α).Settles room held members (some held) := by
  induction members with
  | nil => exact .nil held
  | cons e members ih => exact .pass (pure_misses a held _) ih

/-- What is held of a member when its name finds a value or none; nothing if the value cannot be read. -/
def found? (read? : Json → Option α) : Option Json → Option (Option α)
  | none => some none
  | some j => (read? j).map some

section One

variable {name : String} {d : Decoder α} {build : Arrangement → Option α → Except DecodeFault β}
  {read? : Json → Option α}

/-- Members of other names leave a member as it is. -/
theorem one_settles_of_not_mem {members : List (String × Json)} (h : name ∉ members.map Prod.fst) (held : Option α) :
    (one name d build).Settles room held members (some held) := by
  induction members with
  | nil => exact @Settles.nil _ (one name d build) room held
  | cons e members ih =>
    obtain ⟨hne, hnot⟩ := not_or.mp (mt List.mem_cons.mpr h)
    exact .pass (one_misses (Ne.symm hne) held _) (ih hnot)

/-- A member is held as what its name finds, if that is read. -/
theorem one_settles (hd : d.Decides read?) {members : List (String × Json)} (hdistinct : (members.map Prod.fst).Nodup)
    (hroom : Json.depthOfMembers members ≤ room) :
    (one name d build).Settles room none members (found? read? (Entries.get? name members)) := by
  induction members with
  | nil => exact @Settles.nil _ (one name d build) room none
  | cons e members ih =>
    obtain ⟨k, j⟩ := e
    obtain ⟨hnot, hdistinct⟩ := List.nodup_cons.mp hdistinct
    obtain ⟨hj, hrest⟩ := Nat.max_le.mp hroom
    by_cases hk : name = k
    · subst hk
      have htake : (one name d build).take none name j.toDoc = some (some <$> d j.toDoc) := if_pos rfl
      have hdecides (p : Place) (hp : p.Holds room) := (hd j p (hp.mono hj)).map some
      simp only [Entries.get?, if_true, found?]
      cases hread : read? j with
      | none =>
        rw [hread] at hdecides
        exact .refused htake hdecides members
      | some a =>
        rw [hread] at hdecides
        exact .read htake hdecides (one_settles_of_not_mem hnot (some a))
    · simp only [Entries.get?, if_neg hk]
      exact .pass (one_misses (Ne.symm hk) none j.toDoc) (ih hdistinct hrest)

end One

/-- A single member is of another name than what a part of a record misses. -/
theorem misses_or_one {fields : Fields β} {name : String} {d : Decoder α} {γ : Type}
    {build : Arrangement → Option α → Except DecodeFault γ} (h : fields.Misses name) (k : String) :
    fields.Misses k ∨ (one name d build).Misses k := by
  by_cases hk : k = name
  · exact .inl (hk ▸ h)
  · exact .inr (one_misses hk)

section Seq

variable {f : Fields (α → β)} {x : Fields α} {hf : f.Held} {hx : x.Held} {k : String} {doc : Doc}

theorem take_seq_left {taken : Reading f.Held} (h : f.take hf k doc = some taken) :
    (f <*> x).take (hf, hx) k doc = some do return (← taken, hx) := by
  rw [take_seq, h]

theorem take_seq_right {taken : Reading x.Held} (hpass : f.take hf k doc = none) (h : x.take hx k doc = some taken) :
    (f <*> x).take (hf, hx) k doc = some do return (hf, ← taken) := by
  rw [take_seq, hpass, h]
  rfl

/-- Of two parts without a common name each settles on its own. -/
theorem Settles.seq (hapart : ∀ k, f.Misses k ∨ x.Misses k) {members : List (String × Json)} {of : Option f.Held}
    {ox : Option x.Held} (h : f.Settles room hf members of) (h' : x.Settles room hx members ox) :
    (f <*> x).Settles room (hf, hx) members (of.bind fun hf' => ox.map fun hx' => (hf', hx')) := by
  induction members generalizing hf hx with
  | nil =>
    cases h
    cases h'
    exact @Settles.nil _ (f <*> x) room (hf, hx)
  | cons e members ih =>
    cases h with
    | @pass _ k j _ _ hpass hmore =>
      cases h' with
      | pass hpass' hmore' => exact .pass (by rw [take_seq, hpass, hpass']; rfl) (ih hmore hmore')
      | read htake hread hmore' =>
        exact .read (take_seq_right hpass htake) (fun p hp => Gives.bind (hread p hp) (gives_pure _ p))
          (ih hmore hmore')
      | refused htake hrefused =>
        have hnone : (of.bind fun hf' => (none : Option x.Held).map fun hx' => (hf', hx')) = none := by cases of <;> rfl
        rw [hnone]
        exact .refused (take_seq_right hpass htake) (fun p hp => Fails.bind (hrefused p hp) _) members
    | @read _ _ k j _ _ _ htake hread hmore =>
      have hmiss : x.Misses k := (hapart k).resolve_left fun hmiss => nomatch (hmiss hf j.toDoc).symm.trans htake
      cases h' with
      | pass _ hmore' =>
        exact .read (take_seq_left htake) (fun p hp => Gives.bind (hread p hp) (gives_pure _ p)) (ih hmore hmore')
      | read htake' => exact nomatch (hmiss hx j.toDoc).symm.trans htake'
      | refused htake' => exact nomatch (hmiss hx j.toDoc).symm.trans htake'
    | refused htake hrefused => exact .refused (take_seq_left htake) (fun p hp => Fails.bind (hrefused p hp) _) members

end Seq

/-- The walk over the members of an object ends with what is held after them, whatever is made of the other members. -/
theorem Settles.walk {fields : Fields α} {held : fields.Held} {members : List (String × Json)}
    {o : Option fields.Held} (h : fields.Settles room held members o) (other : β → String → Doc → Reading β) {p : Place}
    (hp : p.Holds room)
    (hother : ∀ rest, ∀ e ∈ members, ∃ rest', (other rest e.1 e.2.toDoc).Gives { p with way := .member e.1 :: p.way } rest')
    (rest : β) :
    ∃ rest', (Fields.walk fields other held rest (Json.membersToDocs members)).Decides p (o.map (·, rest')) := by
  induction h generalizing rest with
  | nil held => exact ⟨rest, gives_pure (held, rest) p⟩
  | @pass held k j more o hpass _ ih =>
    obtain ⟨rest', hgives⟩ := hother rest (k, j) List.mem_cons_self
    obtain ⟨rest'', hwalk⟩ := ih (fun rest e he => hother rest e (List.mem_cons_of_mem _ he)) rest'
    refine ⟨rest'', ?_⟩
    unfold Json.membersToDocs Fields.walk
    refine Decides.bind (o := some k) (g := fun _ => _) (Decoder.string_reads k p) fun name hname => ?_
    cases hname
    rw [hpass]
    exact Decides.bind (o := some rest') (g := fun _ => _) (Gives.turn hgives) fun r hr => by cases hr; exact hwalk
  | @read held held' k j more o taken htake hread _ ih =>
    obtain ⟨rest', hwalk⟩ := ih (fun rest e he => hother rest e (List.mem_cons_of_mem _ he)) rest
    refine ⟨rest', ?_⟩
    unfold Json.membersToDocs Fields.walk
    refine Decides.bind (o := some k) (g := fun _ => _) (Decoder.string_reads k p) fun name hname => ?_
    cases hname
    rw [htake]
    have hgives := Gives.turn (hread { p with way := .member k :: p.way } ⟨hp.origin, hp.room⟩)
    exact Decides.bind (o := some held') (g := fun _ => _) hgives fun r hr => by cases hr; exact hwalk
  | @refused held k j taken htake hrefused more =>
    refine ⟨rest, ?_⟩
    unfold Json.membersToDocs Fields.walk
    refine Gives.bind_fails (Decoder.string_reads k p) ?_
    rw [htake]
    exact Fails.bind (Fails.turn (hrefused _ ⟨hp.origin, hp.room⟩)) _

/-! ## Records -/

/-- What a part of a record is read as, given the members of an object; nothing if it cannot be read. -/
def ReadsAs (fields : Fields α) (members : List (String × Json)) (o : Option α) : Prop :=
  ∃ held, fields.Settles (Json.depthOfMembers members) fields.start members held ∧
    (held.bind fun h => (fields.build .byName h).toOption) = o

variable {members : List (String × Json)}

theorem pure_readsAs (a : α) : (pure a : Fields α).ReadsAs members (some a) := ⟨some (), pure_settles a () members, rfl⟩

/-- A member that has to be there is what its name finds. -/
theorem required_readsAs {d : Decoder α} {read? : Json → Option α} (hd : d.Decides read?)
    (hdistinct : (members.map Prod.fst).Nodup) (name : String) :
    (required name d).ReadsAs members ((Entries.get? name members).bind read?) := by
  refine ⟨_, one_settles hd hdistinct (Nat.le_refl _), ?_⟩
  cases Entries.get? name members with
  | none => rfl
  | some j => cases h : read? j <;> simp [found?, h] <;> rfl

/-- A member that may be absent is what its name finds, unless that is `null`. -/
theorem optional_readsAs {d : Decoder α} {read? : Json → Option α} (hd : d.Decides read?)
    (hdistinct : (members.map Prod.fst).Nodup) (name : String) :
    (optional name d).ReadsAs members (Json.optional? read? (Entries.get? name members)) := by
  refine ⟨_, one_settles hd.option hdistinct (Nat.le_refl _), ?_⟩
  cases Entries.get? name members with
  | none => rfl
  | some j => cases h : Json.optional? read? (some j) <;> simp [found?, h] <;> rfl

/-- Of two parts without a common name each is read on its own. -/
theorem ReadsAs.seq {f : Fields (α → β)} {x : Fields α} (hapart : ∀ k, f.Misses k ∨ x.Misses k) {of : Option (α → β)}
    {ox : Option α} (hf : f.ReadsAs members of) (hx : x.ReadsAs members ox) :
    (f <*> x).ReadsAs members (of.bind fun g => ox.map g) := by
  obtain ⟨heldf, hf, rfl⟩ := hf
  obtain ⟨heldx, hx, rfl⟩ := hx
  refine ⟨_, hf.seq hapart hx, ?_⟩
  cases heldf with
  | none => rfl
  | some h =>
    cases heldx with
    | none => cases hg : (f.build .byName h) <;> simp [hg]
    | some h' =>
      have hbuild : (f <*> x).build .byName (h, h') = (f.build .byName h).bind fun g => (x.build .byName h').map g := rfl
      simp only [Option.bind_some, Option.map_some, hbuild]
      cases f.build .byName h <;> cases x.build .byName h' <;> rfl

theorem ReadsAs.map {x : Fields α} {o : Option α} (hx : x.ReadsAs members o) (g : α → β) :
    (g <$> x).ReadsAs members (o.map g) :=
  (pure_readsAs g).seq (fun _ => .inl (pure_misses g)) hx

/-- The members of an object are read as a record, whatever is made of the further ones. -/
theorem ReadsAs.ofMembers {fields : Fields α} {o : Option α} (h : fields.ReadsAs members o)
    (other : β → String → Doc → Reading β) {p : Place} (hp : p.Holds (Json.obj members).depth)
    (hother : ∀ (p : Place) rest, p.Holds (Json.depthOfMembers members) → ∀ e ∈ members, ∃ rest',
      (other rest e.1 e.2.toDoc).Gives { p with way := .member e.1 :: p.way } rest') (rest : β) :
    ∃ rest', (Fields.ofMembers fields other rest (Json.membersToDocs members) none).Decides p (o.map (·, rest')) := by
  obtain ⟨held, hsettles, rfl⟩ := h
  obtain ⟨room, hroom, hp⟩ : ∃ room, p.room = room + 1 ∧ { p with room }.Holds (Json.depthOfMembers members) := by
    have hdepth : Json.depthOfMembers members + 1 ≤ p.room := hp.room
    exact ⟨p.room - 1, by omega, hp.origin, Nat.le_sub_one_of_lt hdepth⟩
  obtain ⟨rest', hwalk⟩ := hsettles.walk other hp (fun rest => hother _ rest hp) rest
  refine ⟨rest', ?_⟩
  have hmap : ((held.bind fun h => (fields.build .byName h).toOption).map (·, rest')) =
      (held.map (·, rest')).bind fun r => (fields.build .byName r.1).toOption.map (·, r.2) := by
    cases held <;> rfl
  rw [hmap]
  refine Decides.enter hroom (hwalk.bind fun r _ => ?_)
  refine Decides.bind (o := some ()) (g := fun _ => _) (gives_pure () _) fun _ _ => ?_
  exact (decides_ofExcept _ _).map (·, r.2)

/-- An object is read as a record as its members are, and the further ones are kept. -/
theorem ReadsAs.spread {fields : Fields α} {o : Option α} (h : fields.ReadsAs members o) (name : String) {p : Place}
    (hp : p.Holds (Json.obj members).depth) :
    ∃ kept, (Fields.spread name fields (Json.obj members).toDoc).Decides p (o.map (·, kept)) := by
  -- Whatever member is kept, there is room for it.
  have hkept (p : Place) (kept : List (String × Json)) (hp : p.Holds (Json.depthOfMembers members)) : ∀ e ∈ members,
      ∃ kept', (do return (e.1, ← Decoder.heldJson e.2.toDoc) :: kept : Reading (List (String × Json))).Gives
        { p with way := .member e.1 :: p.way } kept' := by
    intro e he
    have hfits : e.2.depth ≤ p.room := Nat.le_trans (Json.depth_le_of_mem he) hp.room
    exact ⟨_, Gives.bind (Decoder.heldJson_gives hfits) (gives_pure _ _)⟩
  obtain ⟨kept, hrecord⟩ := h.ofMembers (fun kept name doc => do return (name, ← Decoder.heldJson doc) :: kept) hp
    hkept []
  refine ⟨Table.ofList kept.reverse, ?_⟩
  have hmap : o.map (·, Table.ofList kept.reverse) =
      (o.map (·, kept)).map fun r => (r.1, Table.ofList r.2.reverse) := by
    cases o <;> rfl
  rw [hmap]
  refine Decides.bind (o := some _) (g := fun _ => _) (gives_pure _ p) fun doc hdoc => ?_
  cases hdoc
  exact hrecord.map _

/-- Only an object is read as a record whose further members are kept. -/
theorem spread_fails {fields : Fields α} {j : Json} (h : ∀ members, j ≠ .obj members) (name : String) (p : Place) :
    (Fields.spread name fields j.toDoc).Fails p := by
  cases j with
  | obj members => exact absurd rfl (h members)
  | _ => exact Gives.bind_fails (gives_pure _ p) (fails_fail _ p)

end Fields

end Rollout
