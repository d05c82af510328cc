import Rollout.Digest.Fingerprint
import Rollout.Proofs.Table

/-!
# Rollout.Proofs.Json.Sorted — documents whose objects list rising keys

A document is stored with the members of its objects by rising key.  Once it is so, storing it again changes nothing.

* `sorted_ofTable`, `sorted_record`: the object of a table, and that of a record, is sorted if the values are.
* `sort_sorted`, `sort_eq_self`: sorting makes a document sorted and leaves one that is.
* `same_self`: a document is the same as itself.
-/

namespace Rollout.Json

/-! ## Lists of documents -/

theorem sortedItems_iff : ∀ {items : List Json}, sortedItems items ↔ ∀ a ∈ items, a.sorted
  | [] => by simp [sortedItems]
  | _ :: _ => by simp [sortedItems, sortedItems_iff]

theorem sortedMembers_iff : ∀ {members : List (String × Json)}, sortedMembers members ↔ ∀ e ∈ members, e.2.sorted
  | [] => by simp [sortedMembers]
  | (_, _) :: _ => by simp [sortedMembers, sortedMembers_iff]

/-! ## Objects -/

theorem sorted_ofTable {t : Table Json} (h : t.All sorted) : (ofTable t).sorted :=
  ⟨t.rising, sortedMembers_iff.mpr (Table.all_iff_entries.mp h)⟩

theorem sorted_ofEntries {members : List (String × Json)} (h : ∀ e ∈ members, e.2.sorted) :
    (ofEntries members).sorted :=
  sorted_ofTable (Table.all_ofList h)

/-- An object without the members that are absent is sorted if the names rise and the values are sorted. -/
theorem sorted_record {members : List (String × Option Json)} (hrising : Entries.Rising members)
    (h : ∀ name j, (name, some j) ∈ members → j.sorted) : (record members).sorted := by
  refine ⟨hrising.filterMap _ fun a b hlt e he e' he' => ?_, sortedMembers_iff.mpr fun e he => ?_⟩
  · obtain ⟨j, -, rfl⟩ := Option.map_eq_some_iff.mp he
    obtain ⟨j', -, rfl⟩ := Option.map_eq_some_iff.mp he'
    exact hlt
  · obtain ⟨⟨name, value⟩, hmem, hvalue⟩ := List.mem_filterMap.mp he
    obtain ⟨j, rfl, rfl⟩ := Option.map_eq_some_iff.mp hvalue
    exact h name j hmem

/-- The values of a sorted object are sorted, and its members are those of its table. -/
theorem all_of_sorted {members : List (String × Json)} (h : (obj members).sorted) :
    (Table.ofList members).All sorted :=
  Table.all_ofList (sortedMembers_iff.mp h.2)

/-! ## Sorting -/

mutual

theorem sort_sorted : ∀ j : Json, j.sort.sorted
  | null => trivial
  | bool _ => trivial
  | num _ => trivial
  | str _ => trivial
  | arr items => by
    show sortedItems (sortItems items)
    exact sortItems_sorted items
  | obj members => sorted_ofEntries (sortMembers_sorted members)

theorem sortItems_sorted : ∀ items : List Json, sortedItems (sortItems items)
  | [] => trivial
  | a :: as => ⟨sort_sorted a, sortItems_sorted as⟩

theorem sortMembers_sorted : ∀ members : List (String × Json), ∀ e ∈ sortMembers members, e.2.sorted
  | [] => fun _ he => nomatch he
  | (k, a) :: rest => fun e he => by
    rcases List.mem_cons.mp he with rfl | he
    · exact sort_sorted a
    · exact sortMembers_sorted rest e he

end

mutual

/-- A sorted document is left as it is. -/
theorem sort_eq_self : ∀ {j : Json}, j.sorted → j.sort = j
  | null, _ => rfl
  | bool _, _ => rfl
  | num _, _ => rfl
  | str _, _ => rfl
  | arr items, h => by
    have hitems : sortedItems items := h
    rw [sort, sortItems_eq_self hitems]
  | obj members, h => by
    rw [sort, sortMembers_eq_self h.2, ofEntries, ofTable, Table.entries_ofList h.1]

theorem sortItems_eq_self : ∀ {items : List Json}, sortedItems items → sortItems items = items
  | [], _ => rfl
  | a :: as, h => by rw [sortItems, sort_eq_self h.1, sortItems_eq_self h.2]

theorem sortMembers_eq_self : ∀ {members : List (String × Json)}, sortedMembers members → sortMembers members = members
  | [], _ => rfl
  | (k, a) :: rest, h => by rw [sortMembers, sort_eq_self h.1, sortMembers_eq_self h.2]

end

/-! ## Equality -/

mutual

theorem same_self : ∀ j : Json, j.same j = true
  | null => rfl
  | bool _ => by simp [same]
  | num n => by cases n <;> simp [same, Number.same, Binary64.same]
  | str _ => by simp [same]
  | arr items => by
    rw [same]
    exact sameItems_self items
  | obj members => by
    rw [same]
    exact sameMembers_self members

theorem sameItems_self : ∀ items : List Json, sameItems items items = true
  | [] => rfl
  | a :: as => by rw [sameItems, same_self a, sameItems_self as, Bool.and_true]

theorem sameMembers_self : ∀ members : List (String × Json), sameMembers members members = true
  | [] => rfl
  | (k, a) :: rest => by simp [sameMembers, same_self a, sameMembers_self rest]

end

end Rollout.Json

namespace Rollout

theorem Table.same_self (t : Table Json) : t.same t = true := Json.sameMembers_self t.entries

end Rollout
