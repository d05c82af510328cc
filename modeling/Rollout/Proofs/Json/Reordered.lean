import Rollout.Proofs.Json.Sorted
import Rollout.Proofs.Number.Written

/-!
# Rollout.Proofs.Json.Reordered — documents that differ only in the order of members

Two documents are the same up to the order in which the members of their objects are written, at any depth, exactly if
they are equal once each is sorted.

* `Every`: what holds of all numbers and of the keys of all objects; `Proper`: what holds of every document.
* `Reordered`: the same document up to the order of members.
* `Reordered.every`: what holds of the keys in any order still holds.
* `reordered_sort`: sorting a document only reorders it.
* `reordered_iff_sort_eq`: documents are reordered exactly if they are sorted into the same one.
-/

namespace Rollout.Json

/-! ## All parts of a document -/

section Every

variable (P : Number → Prop) (Q : List String → Prop)

mutual

/-- Every number in the document satisfies `P`, and the keys of every object, in their order, satisfy `Q`. -/
def Every : Json → Prop
  | num n => P n
  | arr items => EveryItem items
  | obj members => Q (members.map Prod.fst) ∧ EveryMember members
  | _ => True

def EveryItem : List Json → Prop
  | [] => True
  | a :: as => Every a ∧ EveryItem as

def EveryMember : List (String × Json) → Prop
  | [] => True
  | (_, a) :: as => Every a ∧ EveryMember as

end

end Every

variable {P : Number → Prop} {Q : List String → Prop}

theorem everyItem_iff {items : List Json} : EveryItem P Q items ↔ ∀ a ∈ items, a.Every P Q := by
  induction items with
  | nil => simp [EveryItem]
  | cons _ _ ih => simp [EveryItem, ih]

theorem everyMember_iff {members : List (String × Json)} : EveryMember P Q members ↔ ∀ e ∈ members, e.2.Every P Q := by
  induction members with
  | nil => simp [EveryMember]
  | cons _ _ ih => simp [EveryMember, ih]

mutual

/-- What holds of the numbers by one account holds beside what holds of the keys by another. -/
theorem Every.combine {P' : Number → Prop} {Q' : List String → Prop} : ∀ {j : Json},
    j.Every P Q → j.Every P' Q' → j.Every P Q'
  | null, _, _ => trivial
  | bool _, _, _ => trivial
  | num _, h, _ => h
  | str _, _, _ => trivial
  | arr items, h, h' =>
    have hitems : EveryItem P Q items := h
    hitems.combine h'
  | obj _, h, h' => ⟨h'.1, EveryMember.combine h.2 h'.2⟩

theorem EveryItem.combine {P' : Number → Prop} {Q' : List String → Prop} : ∀ {items : List Json},
    EveryItem P Q items → EveryItem P' Q' items → EveryItem P Q' items
  | [], _, _ => trivial
  | _ :: _, h, h' => ⟨h.1.combine h'.1, EveryItem.combine h.2 h'.2⟩

theorem EveryMember.combine {P' : Number → Prop} {Q' : List String → Prop} : ∀ {members : List (String × Json)},
    EveryMember P Q members → EveryMember P' Q' members → EveryMember P Q' members
  | [], _, _ => trivial
  | (_, _) :: _, h, h' => ⟨h.1.combine h'.1, EveryMember.combine h.2 h'.2⟩

end

/-- What holds of every document: its numbers are finite, and no object has a key twice. -/
def Proper (j : Json) : Prop := j.Every Number.Representable List.Nodup

/-! ## The order of members -/

/-- The same document up to the order in which the members of objects are written. -/
inductive Reordered : Json → Json → Prop
  | refl (j : Json) : Reordered j j
  | trans {a b c : Json} : Reordered a b → Reordered b c → Reordered a c
  | members {members members' : List (String × Json)} : members.Perm members' → Reordered (obj members) (obj members')
  | item {a b : Json} (before after : List Json) : Reordered a b →
      Reordered (arr (before ++ a :: after)) (arr (before ++ b :: after))
  | member {a b : Json} (before : List (String × Json)) (k : String) (after : List (String × Json)) : Reordered a b →
      Reordered (obj (before ++ (k, a) :: after)) (obj (before ++ (k, b) :: after))

namespace Reordered

variable {a b : Json}

theorem symm (h : Reordered a b) : Reordered b a := by
  induction h with
  | refl j => exact .refl j
  | trans _ _ ihab ihbc => exact ihbc.trans ihab
  | members hperm => exact .members hperm.symm
  | item before after _ ih => exact ih.item before after
  | member before k after _ ih => exact ih.member before k after

/-- What holds of all numbers, and of all keys in any order, does not depend on the order. -/
theorem every (hQ : ∀ keys keys' : List String, keys.Perm keys' → Q keys → Q keys') (h : Reordered a b)
    (ha : a.Every P Q) : b.Every P Q := by
  induction h with
  | refl => exact ha
  | trans _ _ ihab ihbc => exact ihbc (ihab ha)
  | members hperm =>
    exact ⟨hQ _ _ (hperm.map Prod.fst) ha.1,
      everyMember_iff.mpr fun e he => everyMember_iff.mp ha.2 e (hperm.mem_iff.mpr he)⟩
  | item before after _ ih =>
    have hitems := everyItem_iff.mp ha
    refine everyItem_iff.mpr fun c hc => ?_
    rcases List.mem_append.mp hc with hc | hc
    · exact hitems c (List.mem_append_left _ hc)
    · rcases List.mem_cons.mp hc with rfl | hc
      · exact ih (hitems _ (List.mem_append_right _ List.mem_cons_self))
      · exact hitems c (List.mem_append_right _ (List.mem_cons_of_mem _ hc))
  | member before k after _ ih =>
    have hmembers := everyMember_iff.mp ha.2
    refine ⟨by simpa using ha.1, everyMember_iff.mpr fun e he => ?_⟩
    rcases List.mem_append.mp he with he | he
    · exact hmembers e (List.mem_append_left _ he)
    · rcases List.mem_cons.mp he with rfl | he
      · exact ih (hmembers (k, _) (List.mem_append_right _ List.mem_cons_self))
      · exact hmembers e (List.mem_append_right _ (List.mem_cons_of_mem _ he))

theorem proper (h : Reordered a b) (ha : a.Proper) : b.Proper :=
  h.every (fun _ _ hperm hnodup => hperm.nodup_iff.mp hnodup) ha

end Reordered

/-! ## Sorting -/

theorem sortItems_eq_map (items : List Json) : sortItems items = items.map sort := by
  induction items with
  | nil => rfl
  | cons a as ih => rw [sortItems, ih, List.map_cons]

theorem sortMembers_eq_map (members : List (String × Json)) :
    sortMembers members = members.map fun e => (e.1, e.2.sort) := by
  induction members with
  | nil => rfl
  | cons e rest ih => rw [sortMembers, ih, List.map_cons]

theorem keys_sortMembers (members : List (String × Json)) :
    (sortMembers members).map Prod.fst = members.map Prod.fst := by
  rw [sortMembers_eq_map, List.map_map]
  rfl

/-- Documents that are the same up to the order of members are sorted into the same document. -/
theorem Reordered.sort_eq {a b : Json} (h : Reordered a b) (ha : a.Proper) : a.sort = b.sort := by
  induction h with
  | refl => rfl
  | trans hab _ ihab ihbc => exact (ihab ha).trans (ihbc (hab.proper ha))
  | members hperm =>
    have hnodup := ha.1
    rw [← keys_sortMembers] at hnodup
    rw [sort, sort, ofEntries, ofEntries, Table.ofList_perm hnodup]
    rw [sortMembers_eq_map, sortMembers_eq_map]
    exact hperm.map _
  | item before after _ ih =>
    have hitem := ih (everyItem_iff.mp ha _ (List.mem_append_right _ List.mem_cons_self))
    rw [sort, sort, sortItems_eq_map, sortItems_eq_map, List.map_append, List.map_append, List.map_cons, List.map_cons,
      hitem]
  | member before k after _ ih =>
    have hmember := ih (everyMember_iff.mp ha.2 (k, _) (List.mem_append_right _ List.mem_cons_self))
    rw [sort, sort, sortMembers_eq_map, sortMembers_eq_map, List.map_append, List.map_append, List.map_cons,
      List.map_cons, hmember]

mutual

/-- Sorting a document only reorders it. -/
theorem reordered_sort : ∀ {j : Json}, j.Proper → Reordered j j.sort
  | null, _ => .refl _
  | bool _, _ => .refl _
  | num _, _ => .refl _
  | str _, _ => .refl _
  | arr items, h => reordered_sortItems h []
  | obj members, h => by
    have hperm : (sortMembers members).Perm (Table.ofList (sortMembers members)).entries :=
      Table.perm_ofList (keys_sortMembers members ▸ h.1)
    exact (reordered_sortMembers h.2 []).trans (.members hperm)

theorem reordered_sortItems : ∀ {items : List Json}, EveryItem Number.Representable List.Nodup items →
    ∀ before, Reordered (arr (before ++ items)) (arr (before ++ sortItems items))
  | [], _, _ => .refl _
  | a :: as, h, before => by
    have hrest := reordered_sortItems h.2 (before ++ [a.sort])
    rw [List.append_assoc, List.append_assoc] at hrest
    exact ((reordered_sort h.1).item before as).trans hrest

theorem reordered_sortMembers : ∀ {members : List (String × Json)},
    EveryMember Number.Representable List.Nodup members →
    ∀ before, Reordered (obj (before ++ members)) (obj (before ++ sortMembers members))
  | [], _, _ => .refl _
  | (k, a) :: as, h, before => by
    have hrest := reordered_sortMembers h.2 (before ++ [(k, a.sort)])
    rw [List.append_assoc, List.append_assoc] at hrest
    exact ((reordered_sort h.1).member before k as).trans hrest

end

/-- Two documents are the same up to the order of members exactly if they are sorted into the same document. -/
theorem reordered_iff_sort_eq {a b : Json} (ha : a.Proper) (hb : b.Proper) : Reordered a b ↔ a.sort = b.sort := by
  refine ⟨fun h => h.sort_eq ha, fun h => ?_⟩
  have hab := reordered_sort ha
  rw [h] at hab
  exact hab.trans (reordered_sort hb).symm

end Rollout.Json
