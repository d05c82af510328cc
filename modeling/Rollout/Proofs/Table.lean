import Mathlib.Data.List.Nodup
import Rollout.Table

/-!
# Rollout.Proofs.Table — tables put together

What a key finds in a table into which a whole member list was put.  A list whose keys rise has no key twice, so the
order in which its members are put in does not matter.

* `Entries.Rising.nodup`: a list whose keys rise has no key twice.
* `get?_insertAll`: what a key finds afterwards.
* `insertAll_insertAll`: putting the same members in again changes nothing.
* `ofList_entries`: a table is the table of its listing; `perm_ofList`: a list without a key twice is one of its table.
* `mem_keys_insertAll`: the keys afterwards; `size_insert`: how many there are.
-/

namespace Rollout

universe u

variable {α : Type u}

/-- A list whose keys rise has no key twice. -/
theorem Entries.Rising.nodup {members : List (String × α)} (h : Entries.Rising members) :
    (members.map Prod.fst).Nodup := by
  refine List.pairwise_map.mpr (h.imp ?_)
  rintro a b hlt heq
  rw [heq] at hlt
  exact String.lt_irrefl _ hlt

theorem Entries.length_insert {k : String} {members : List (String × α)} (h : get? k members = none) (x : α) :
    (insert k x members).length = members.length + 1 := by
  induction members with
  | nil => rfl
  | cons e members ih =>
    obtain ⟨k', x'⟩ := e
    have hk : k ≠ k' := by
      rintro rfl
      simp [get?] at h
    have hrest : get? k members = none := by simpa [get?, hk] using h
    unfold insert
    split
    · rfl
    · rw [List.length_cons, ih hrest, List.length_cons]

namespace Table

theorem get?_insertAll (t : Table α) {more : List (String × α)} (h : Entries.Rising more) (k : String) :
    (t.insertAll more).get? k = (Entries.get? k more).or (t.get? k) := by
  induction more generalizing t with
  | nil => rfl
  | cons e more ih =>
    obtain ⟨k', x⟩ := e
    obtain ⟨hlt, hrest⟩ := List.pairwise_cons.mp h
    have hstep : (t.insertAll ((k', x) :: more)).get? k = ((t.insert k' x).insertAll more).get? k := rfl
    rw [hstep, ih (t.insert k' x) hrest, get?_insert]
    by_cases hk : k = k'
    · subst hk
      rw [Entries.get?_eq_none_of_lt hlt]
      simp [Entries.get?]
    · simp [Entries.get?, hk]

/-- The members put in stand before those that were there, also where a key occurs twice among them. -/
theorem get?_insertAll_ofList (t : Table α) (more : List (String × α)) (k : String) :
    (t.insertAll more).get? k = ((ofList more).get? k).or (t.get? k) := by
  induction more generalizing t with
  | nil => rfl
  | cons e more ih =>
    have hstep : (t.insertAll (e :: more)).get? k = ((t.insert e.1 e.2).insertAll more).get? k := rfl
    have hlist : (ofList (e :: more)).get? k = (((empty : Table α).insert e.1 e.2).insertAll more).get? k := rfl
    rw [hstep, hlist, ih, ih, Option.or_assoc, get?_insert, get?_insert]
    by_cases hk : k = e.1 <;> simp [hk]

/-- Putting the same members in again changes nothing. -/
theorem insertAll_insertAll (t : Table α) {more : List (String × α)} (h : Entries.Rising more) :
    (t.insertAll more).insertAll more = t.insertAll more := by
  refine ext_get? fun k => ?_
  rw [get?_insertAll _ h, get?_insertAll _ h]
  cases Entries.get? k more <;> rfl

theorem ofList_entries (t : Table α) : ofList t.entries = t := by
  refine ext_get? fun k => ?_
  rw [ofList, get?_insertAll _ t.rising, get?_empty, Option.or_none]
  rfl

theorem entries_ofList {members : List (String × α)} (h : Entries.Rising members) :
    (ofList members).entries = members :=
  congrArg entries (ofList_entries ⟨members, h⟩)

/-- In a list that has no key twice every key finds its own member. -/
theorem get?_ofList_iff {members : List (String × α)} (h : (members.map Prod.fst).Nodup) (k : String) (x : α) :
    (ofList members).get? k = some x ↔ (k, x) ∈ members := by
  induction members generalizing x with
  | nil => simp [ofList, insertAll]
  | cons e members ih =>
    obtain ⟨k', x'⟩ := e
    obtain ⟨hnew, hrest⟩ := List.nodup_cons.mp h
    have hlist : ofList ((k', x') :: members) = ((empty : Table α).insert k' x').insertAll members := rfl
    rw [hlist, get?_insertAll_ofList, get?_insert, List.mem_cons, Prod.mk.injEq, ← ih hrest x]
    by_cases hk : k = k'
    · subst hk
      have hnone : (ofList members).get? k = none := by
        cases hy : (ofList members).get? k with
        | none => rfl
        | some y => exact absurd (List.mem_map.mpr ⟨(k, y), (ih hrest y).mp hy, rfl⟩) hnew
      simp [hnone, eq_comm]
    · simp [hk]

/-- A list that has no key twice holds the members of its table. -/
theorem perm_ofList {members : List (String × α)} (h : (members.map Prod.fst).Nodup) :
    members.Perm (ofList members).entries := by
  have hentries : (ofList members).entries.Nodup := List.Nodup.of_map _ (ofList members).rising.nodup
  refine (List.perm_ext_iff_of_nodup (List.Nodup.of_map _ h) hentries).mpr ?_
  rintro ⟨k, x⟩
  rw [mem_entries_iff, get?_ofList_iff h]

/-- The order of members does not matter to a table if no key is there twice. -/
theorem ofList_perm {members members' : List (String × α)} (h : (members.map Prod.fst).Nodup)
    (hperm : members.Perm members') : ofList members = ofList members' := by
  refine ext_get? fun k => Option.ext fun x => ?_
  rw [get?_ofList_iff h, get?_ofList_iff ((hperm.map Prod.fst).nodup_iff.mp h)]
  exact hperm.mem_iff

/-- Nothing is erased under a key that finds nothing. -/
theorem erase_eq_self {t : Table α} {k : String} (h : t.get? k = none) : t.erase k = t := by
  refine ext_get? fun k' => ?_
  by_cases hk : k' = k
  · rw [hk, get?_erase_self, h]
  · rw [get?_erase_of_ne _ hk]

theorem erase_erase (t : Table α) (k : String) : (t.erase k).erase k = t.erase k :=
  erase_eq_self (get?_erase_self _ _)

/-! ## Keys -/

theorem mem_keys {t : Table α} {k : String} : k ∈ t.keys ↔ ∃ x, t.get? k = some x := by
  constructor
  · intro h
    obtain ⟨⟨k', x⟩, he, rfl⟩ := List.mem_map.mp h
    exact ⟨x, (t.mem_entries_iff k' x).mp he⟩
  · rintro ⟨x, hx⟩
    exact List.mem_map.mpr ⟨(k, x), (t.mem_entries_iff k x).mpr hx, rfl⟩

/-- The keys of the members that are put in are those of the table, beside those it had. -/
theorem mem_keys_insertAll {t : Table α} {members : List (String × α)} {k : String} :
    k ∈ (t.insertAll members).keys ↔ k ∈ members.map Prod.fst ∨ k ∈ t.keys := by
  induction members generalizing t with
  | nil => simp [insertAll]
  | cons e members ih =>
    have hstep : t.insertAll (e :: members) = (t.insert e.1 e.2).insertAll members := rfl
    have hinsert : k ∈ (t.insert e.1 e.2).keys ↔ k = e.1 ∨ k ∈ t.keys := by
      rw [mem_keys, mem_keys]
      by_cases hk : k = e.1
      · simp [hk]
      · simp [hk, get?_insert_of_ne]
    rw [hstep, ih, hinsert, List.map_cons, List.mem_cons, or_assoc, or_left_comm]

theorem mem_keys_ofList {members : List (String × α)} {k : String} :
    k ∈ (ofList members).keys ↔ k ∈ members.map Prod.fst := by
  rw [ofList, mem_keys_insertAll]
  simp [keys, empty]

/-- A table grows by one when something is put under a key that found nothing. -/
theorem size_insert {t : Table α} {k : String} (h : t.get? k = none) (x : α) : (t.insert k x).size = t.size + 1 :=
  Entries.length_insert h x

/-! ## What holds of every value -/

/-- Every value of the table satisfies `P`. -/
def All (P : α → Prop) (t : Table α) : Prop := ∀ k x, t.get? k = some x → P x

variable {P : α → Prop} {t : Table α}

theorem all_empty : (empty : Table α).All P := by
  intro k x h
  cases h

theorem All.insert (h : t.All P) (k : String) {x : α} (hx : P x) : (t.insert k x).All P := by
  intro k' x' h'
  rw [get?_insert] at h'
  by_cases hk : k' = k
  · rw [if_pos hk] at h'
    cases h'
    exact hx
  · rw [if_neg hk] at h'
    exact h k' x' h'

theorem All.erase (h : t.All P) (k : String) : (t.erase k).All P := by
  intro k' x' h'
  by_cases hk : k' = k
  · subst hk
    rw [get?_erase_self] at h'
    cases h'
  · rw [get?_erase_of_ne _ hk] at h'
    exact h k' x' h'

theorem All.insertAll {more : List (String × α)} (h : t.All P) (hmore : ∀ e ∈ more, P e.2) :
    (t.insertAll more).All P := by
  induction more generalizing t with
  | nil => exact h
  | cons e more ih =>
    exact ih (h.insert e.1 (hmore e List.mem_cons_self)) fun e' he' => hmore e' (List.mem_cons_of_mem _ he')

theorem all_ofList {members : List (String × α)} (h : ∀ e ∈ members, P e.2) : (ofList members).All P :=
  All.insertAll all_empty h

theorem all_iff_entries : t.All P ↔ ∀ e ∈ t.entries, P e.2 := by
  constructor
  · rintro h ⟨k, x⟩ he
    exact h k x ((t.mem_entries_iff k x).mp he)
  · intro h k x hx
    exact h (k, x) ((t.mem_entries_iff k x).mpr hx)

end Table

end Rollout
