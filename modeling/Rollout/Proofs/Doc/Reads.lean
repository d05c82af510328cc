import Rollout.Json.Decode

/-!
# Rollout.Proofs.Doc.Reads — what a document is read as

A record is read member by member, each into its own place.  What is read of a document with known members is put
together from what each member is read as.

* `Reading.Gives`: a step of decoding ends with a value at a place.
* `Decoder.Reads`: a decoder reads a document as a value, wherever it stands.
* `Fields.Takes`, `Fields.Misses`: what a part of a record makes of one member.
* `Fields.walk_cons`, `Fields.closed_gives`: a record.
-/

namespace Rollout

variable {α β : Type}

namespace Reading

/-- A step of decoding ends with a value at a place and follows no alias. -/
def Gives (x : Reading α) (p : Place) (a : α) : Prop := ∀ n, x p n = .ok (a, n)

variable {x : Reading α} {p : Place} {a : α}

theorem gives_pure (a : α) (p : Place) : (pure a : Reading α).Gives p a := fun _ => rfl

theorem Gives.bind {f : α → Reading β} {b : β} (hx : x.Gives p a) (hf : (f a).Gives p b) : (x >>= f).Gives p b := by
  intro n
  have h : (x >>= f) p n = (x p n).bind fun r => f r.1 p r.2 := rfl
  rw [h, hx n]
  exact hf n

theorem Gives.map {f : α → β} (hx : x.Gives p a) : (f <$> x).Gives p (f a) := by
  intro n
  have h : (f <$> x) p n = (x p n).bind fun r => .ok (f r.1, r.2) := rfl
  rw [h, hx n]
  rfl

theorem Gives.enter {room : Nat} (hroom : p.room = room + 1) (hx : x.Gives { p with room } a) :
    (enter x).Gives p a := by
  intro n
  unfold Reading.enter
  rw [hroom]
  exact hx n

theorem Gives.turn {t : Turn} (hx : x.Gives { p with way := t :: p.way } a) : (turn t x).Gives p a := hx

end Reading

open Reading

/-- A decoder reads a document as a value, wherever the document stands. -/
def Decoder.Reads (d : Decoder α) (doc : Doc) (a : α) : Prop := ∀ p, (d doc).Gives p a

namespace Decoder

theorem string_reads (s : String) : string.Reads (.str s) s := fun _ _ => rfl

end Decoder

/-- What is read of the document of a value in memory is what the value is decoded as. -/
theorem Decoder.ofJson_of_gives {d : Decoder α} {j : Json} {a : α}
    (h : (d j.toDoc).Gives ⟨.plain .value, j.depth, []⟩ a) : d.ofJson j = .ok a := by
  unfold Decoder.ofJson Reading.run StateT.run ReaderT.run
  rw [h 0]
  rfl

/-- What is read of the document of a text is what the text is decoded as. -/
theorem Decoder.ofText_of_gives {d : Decoder α} {text : String} {doc : Doc} {a : α}
    (hdoc : Doc.ofText text = (doc, none)) (h : (d doc).Gives ⟨.plain .text, Json.maxDepth, []⟩ a) : d.ofText text = .ok a := by
  unfold Decoder.ofText Reading.run StateT.run ReaderT.run
  rw [hdoc]
  dsimp only
  rw [h 0]
  rfl

namespace Fields

/-- What a part of a record makes of a member: what is held of the part afterwards. -/
def Takes (fields : Fields α) (held : fields.Held) (k : String) (doc : Doc) (held' : fields.Held) : Prop :=
  ∃ taken, fields.take held k doc = some taken ∧ ∀ p, taken.Gives p held'

/-- A part of a record has no member of a name. -/
def Misses (fields : Fields α) (k : String) : Prop := ∀ held doc, fields.take held k doc = none

variable {k name : String} {doc : Doc}

theorem one_takes {d : Decoder α} {build : Arrangement → Option α → Except DecodeFault β} {a : α}
    (h : d.Reads doc a) : (one name d build).Takes none name doc (some a) :=
  ⟨_, if_pos rfl, fun p => (h p).map⟩

theorem one_misses {d : Decoder α} {build : Arrangement → Option α → Except DecodeFault β} (h : k ≠ name) :
    (one name d build).Misses k := fun _ _ => if_neg h

theorem pure_misses (a : α) : (pure a : Fields α).Misses k := fun _ _ => rfl

section Seq

variable {f : Fields (α → β)} {x : Fields α}

/-- Of two parts the left one is asked first. -/
theorem take_seq (f : Fields (α → β)) (x : Fields α) (hf : f.Held) (hx : x.Held) (k : String) (doc : Doc) :
    (f <*> x).take (hf, hx) k doc = match f.take hf k doc with
      | some taken => some do return (← taken, hx)
      | none => (x.take hx k doc).map fun taken => do return (hf, ← taken) := rfl

theorem Misses.seq (hf : f.Misses k) (hx : x.Misses k) : (f <*> x).Misses k := by
  rintro ⟨held, held'⟩ doc
  rw [take_seq, hf, hx]
  rfl

end Seq

/-- A member that is taken in is the next step of the walk. -/
theorem walk_cons {fields : Fields α} {other : β → String → Doc → Reading β} {held held' : fields.Held} {rest : β}
    {more : List (Doc × Doc)} {p : Place} {r : fields.Held × β} (h : fields.Takes held k doc held')
    (hmore : (walk fields other held' rest more).Gives p r) :
    (walk fields other held rest ((.str k, doc) :: more)).Gives p r := by
  obtain ⟨taken, htake, hgives⟩ := h
  unfold walk
  refine Gives.bind (Decoder.string_reads k p) ?_
  rw [htake]
  exact Gives.bind (hgives _).turn hmore

theorem walk_nil {fields : Fields α} {other : β → String → Doc → Reading β} (held : fields.Held) (rest : β)
    (p : Place) : (walk fields other held rest []).Gives p (held, rest) := gives_pure _ p

/-- A record whose members are all of it, where further ones would be passed over. -/
theorem closed_gives {fields : Fields α} {members : List (Doc × Doc)} {p : Place} (room : Nat) (held : fields.Held)
    (a : α) (hroom : p.room = room + 1)
    (hwalk : ∀ other p, (walk fields other fields.start () members).Gives p (held, ()))
    (hbuild : fields.build .byName held = .ok a) (name : String) :
    (closed name fields (.map members none)).Gives p a := by
  unfold closed
  refine Gives.bind (fun _ => rfl) (Gives.bind (gives_pure _ p) ?_)
  refine Gives.bind (a := (a, ())) (Gives.enter hroom ?_) (gives_pure _ p)
  refine Gives.bind (hwalk _ _) (Gives.bind (gives_pure () _) ?_)
  rw [hbuild]
  exact Gives.bind (gives_pure a _) (gives_pure _ _)

end Fields

end Rollout
