import Rollout.Proofs.Doc.Reads
import Rollout.Proofs.Json.Sorted

/-!
# Rollout.Proofs.Doc.Values — values in memory are read back

A value in memory that is read as any value comes back with the members of its objects by rising key, so one that is
sorted comes back as it is.

* `Decoder.valueWithin_gives`: any value, where there is room for it.
* `Decoder.table_ofJson`: an object as a table of values.
* `Json.ofText_of_toDoc`: a text that holds the value.
-/

namespace Rollout

open Reading Json

/-! ## Rows -/

theorem Reading.gives_mapM_nil {α β : Type} (f : α → Reading β) (p : Place) : (([] : List α).mapM f).Gives p [] := by
  rw [List.mapM_nil]
  exact gives_pure [] p

theorem Reading.Gives.mapM_cons {α β : Type} {f : α → Reading β} {a : α} {as : List α} {b : β} {bs : List β} {p : Place}
    (ha : (f a).Gives p b) (has : (as.mapM f).Gives p bs) : ((a :: as).mapM f).Gives p (b :: bs) := by
  rw [List.mapM_cons]
  exact Gives.bind ha (Gives.bind has (gives_pure _ p))

namespace Decoder

/-! ## Any value -/

variable {manner : Manner}

theorem valueKey_reads (k : String) : (valueKey manner).Reads (.str k) k := by
  cases manner <;> exact fun _ _ => rfl

mutual

theorem valueWithin_gives : ∀ (j : Json) (room : Nat) (_ : j.depth ≤ room) (p : Place),
    (valueWithin manner room j.toDoc).Gives p j.sort
  | .null, room, _, p => by
    unfold valueWithin
    exact Gives.bind (gives_pure _ p) (gives_pure _ p)
  | .bool _, room, _, p => by
    unfold valueWithin
    exact Gives.bind (gives_pure _ p) (gives_pure _ p)
  | .num _, room, _, p => by
    unfold valueWithin
    exact Gives.bind (gives_pure _ p) (gives_pure _ p)
  | .str _, room, _, p => by
    unfold valueWithin
    exact Gives.bind (gives_pure _ p) (gives_pure _ p)
  | .arr items, 0, h, _ => absurd h (Nat.not_succ_le_zero _)
  | .arr items, room + 1, h, p => by
    unfold valueWithin
    refine Gives.bind (gives_pure _ p) ?_
    exact Gives.bind (items_give items room (Nat.le_of_succ_le_succ h) 0 p)
      (Gives.bind (gives_pure () p) (gives_pure _ p))
  | .obj members, 0, h, _ => absurd h (Nat.not_succ_le_zero _)
  | .obj members, room + 1, h, p => by
    unfold valueWithin
    refine Gives.bind (gives_pure _ p) ?_
    exact Gives.bind (members_give members room (Nat.le_of_succ_le_succ h) p)
      (Gives.bind (gives_pure () p) (gives_pure _ p))

theorem items_give : ∀ (items : List Json) (room : Nat) (_ : depthOfItems items ≤ room) (n : Nat) (p : Place),
    (((itemsToDocs items).zipIdx n).mapM fun (item, index) =>
      turn (.item index) (valueWithin manner room item)).Gives p (sortItems items)
  | [], _, _, _, p => gives_mapM_nil _ p
  | a :: as, room, h, n, p => by
    have h : max a.depth (depthOfItems as) ≤ room := h
    exact Gives.mapM_cons (valueWithin_gives a room (by omega) _).turn (items_give as room (by omega) (n + 1) p)

theorem members_give : ∀ (members : List (String × Json)) (room : Nat) (_ : depthOfMembers members ≤ room) (p : Place),
    ((membersToDocs members).mapM fun (k, a) => do
      return (← valueKey manner k, ← turn (.to k) (valueWithin manner room a))).Gives p (sortMembers members)
  | [], _, _, p => gives_mapM_nil _ p
  | (k, a) :: rest, room, h, p => by
    have h : max a.depth (depthOfMembers rest) ≤ room := h
    refine Gives.mapM_cons ?_ (members_give rest room (by omega) p)
    exact Gives.bind (valueKey_reads k p)
      (Gives.bind (valueWithin_gives a room (by omega) _).turn (gives_pure _ p))

end

/-! ## Tables of values -/

theorem table_members_give : ∀ (members : List (String × Json)) (p : Place) (_ : depthOfMembers members ≤ p.room),
    ((membersToDocs members).mapM fun (k, a) => do
      return (← key "a string" k, ← turn (.to k) (json a))).Gives p (sortMembers members)
  | [], p, _ => gives_mapM_nil _ p
  | (k, a) :: rest, p, h => by
    have h : max a.depth (depthOfMembers rest) ≤ p.room := h
    refine Gives.mapM_cons ?_ (table_members_give rest p (by omega))
    refine Gives.bind (string_reads k p) (Gives.bind (Gives.turn ?_) (gives_pure _ p))
    show (json a.toDoc).Gives { p with way := .to (.str k) :: p.way } a.sort
    unfold json
    exact Gives.bind (fun _ => rfl) (valueWithin_gives a _ (by show a.depth ≤ p.room; omega) _)

/-- An object is decoded as the table of its members, each of them sorted. -/
theorem table_ofJson (members : List (String × Json)) :
    (table json).ofJson (.obj members) = .ok (Table.ofList (sortMembers members)) := by
  refine ofJson_of_gives ?_
  unfold table
  refine Gives.bind (gives_pure _ _) ?_
  refine Gives.enter (show _ = depthOfMembers members + 1 from rfl) ?_
  exact Gives.bind (table_members_give members _ (Nat.le_refl _)) (Gives.bind (gives_pure () _) (gives_pure _ _))

/-- Only an object is decoded as a table. -/
theorem table_ofJson_error {j : Json} (h : ∀ members, j ≠ .obj members) :
    ∃ fault, (table json).ofJson j = .error fault := by
  cases j with
  | obj members => exact absurd rfl (h members)
  | null => exact ⟨_, rfl⟩
  | bool b => exact ⟨_, rfl⟩
  | num n => exact ⟨_, rfl⟩
  | str s => exact ⟨_, rfl⟩
  | arr items => exact ⟨_, rfl⟩

end Decoder

/-- A text that holds the document of a value is read as the value, with its members by rising key. -/
theorem Json.ofText_of_toDoc {text : String} {j : Json} (hdoc : Doc.ofText text = (j.toDoc, none))
    (hdepth : j.depth ≤ maxDepth) : Json.ofText text = .ok j.sort :=
  Decoder.ofText_of_gives hdoc (Gives.bind (fun _ => rfl) (Decoder.valueWithin_gives j _ hdepth _))

end Rollout
