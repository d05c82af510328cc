import Rollout.Proofs.Json.Sorted
import Rollout.Variables.Reconcile

/-!
# Rollout.Proofs.Variables.Merge — the variables of a plan, one at a time

Each variable of a plan follows from what was persisted for it alone: the manifest's value stands before the persisted
one, and an override goes over either.  So merging into variables that were merged before changes nothing.

* `bound`: the manifest's value of a variable.
* `get?_merge`: one variable of a plan.
* `merge_merge`: merging again changes nothing.
* `Desired.Sorted`: every document that the variables are computed from lists rising keys.
-/

namespace Rollout.Variables

/-! ## The three layers -/

theorem get?_dropAll (vars : Variables) (names : List String) (n : String) :
    (dropAll vars names).get? n = if n ∈ names then none else vars.get? n := by
  induction names generalizing vars with
  | nil => rfl
  | cons a names ih =>
    have hstep : dropAll vars (a :: names) = dropAll (vars.erase a) names := rfl
    rw [hstep, ih]
    by_cases ha : n = a
    · subst ha
      simp
    · simp [ha, Table.get?_erase_of_ne _ ha]

/-- The value that the manifest has for a variable: that of the last of several bindings for which one is set. -/
def bound (m : Manifest) (n : String) : List Binding → Option Json
  | [] => none
  | b :: rest =>
    (bound m n rest).or (if b.var = n then (m.attr? b.component b.attr).filter Json.isTruthy else none)

theorem get?_applyBinding (m : Manifest) (vars : Variables) (b : Binding) (n : String) :
    (applyBinding m vars b).get? n =
      (if b.var = n then (m.attr? b.component b.attr).filter Json.isTruthy else none).or (vars.get? n) := by
  unfold applyBinding
  cases m.attr? b.component b.attr with
  | none => simp
  | some value =>
    by_cases ht : value.isTruthy
    · by_cases hn : n = b.var
      · simp [ht, hn, Option.filter]
      · simp [ht, Table.get?_insert_of_ne _ hn, Ne.symm hn]
    · simp [ht, Option.filter]

theorem get?_foldl_applyBinding (m : Manifest) (bindings : List Binding) (vars : Variables) (n : String) :
    (bindings.foldl (applyBinding m) vars).get? n = (bound m n bindings).or (vars.get? n) := by
  induction bindings generalizing vars with
  | nil => rfl
  | cons b rest ih => rw [List.foldl_cons, ih, get?_applyBinding, bound, Option.or_assoc]

/-- The value of a variable under overrides. -/
def overridden (overrides : Option Variables) (n : String) (base : Option Json) : Option Json :=
  match overrides.bind fun o => o.get? n with
  | some value => some (overlay base value)
  | none => base

theorem get?_foldl_applyOverride {overrides : List (String × Json)} (h : Entries.Rising overrides) (vars : Variables)
    (n : String) : (overrides.foldl applyOverride vars).get? n = match Entries.get? n overrides with
      | some value => some (overlay (vars.get? n) value)
      | none => vars.get? n := by
  induction overrides generalizing vars with
  | nil => rfl
  | cons o rest ih =>
    obtain ⟨k, value⟩ := o
    obtain ⟨hlt, hrest⟩ := List.pairwise_cons.mp h
    rw [List.foldl_cons, ih hrest]
    by_cases hk : n = k
    · subst hk
      simp [Entries.get?_eq_none_of_lt hlt, Entries.get?, applyOverride]
    · simp [Entries.get?, hk, applyOverride, Table.get?_insert_of_ne _ hk]

/-- One variable of a plan follows from the value persisted for it. -/
theorem get?_merge (persisted : Variables) (b : Bindings) (m : Manifest) (overrides : Option Variables)
    (selection : Option (List String)) (n : String) :
    (merge persisted b m overrides selection).get? n = overridden overrides n
      ((bound m n (b.selected selection)).or
        (if n ∈ (b.defaultable selection).keys then none else persisted.get? n)) := by
  unfold merge overridden
  cases overrides with
  | none =>
    show Table.get? _ n = _
    rw [get?_foldl_applyBinding, get?_dropAll]
    rfl
  | some o =>
    show (o.entries.foldl applyOverride _).get? n = _
    rw [get?_foldl_applyOverride o.rising, get?_foldl_applyBinding, get?_dropAll]
    rfl

/-! ## Merging again -/

/-- An override changes nothing where it was taken in before. -/
theorem overlay_overlay {value : Json} (h : ∀ update, value = .obj update → Entries.Rising update)
    (base : Option Json) : overlay (some (overlay base value)) value = overlay base value := by
  cases value with
  | obj update =>
    have hrising : Entries.Rising update := h update rfl
    -- Over anything but an object the override stands alone, and is then extended by itself.
    have hself : overlay (some (.obj update)) (.obj update) = .obj update := by
      show Json.ofTable ((Table.ofList update).insertAll update) = .obj update
      rw [Table.ofList, Table.insertAll_insertAll _ hrising]
      exact congrArg Json.obj (Table.entries_ofList hrising)
    cases base with
    | none => exact hself
    | some held =>
      cases held with
      | obj members =>
        show Json.ofTable ((Table.ofList ((Table.ofList members).insertAll update).entries).insertAll update) =
          .ofTable ((Table.ofList members).insertAll update)
        rw [Table.ofList_entries, Table.insertAll_insertAll _ hrising]
      | _ => exact hself
  | _ => simp [overlay]

theorem overridden_overridden {overrides : Option Variables}
    (h : ∀ o n update, overrides = some o → o.get? n = some (.obj update) → Entries.Rising update) (n : String)
    (base : Option Json) : overridden overrides n (overridden overrides n base) = overridden overrides n base := by
  unfold overridden
  cases hvalue : overrides.bind fun o => o.get? n with
  | none => rfl
  | some value =>
    obtain ⟨o, ho, hn⟩ := Option.bind_eq_some_iff.mp hvalue
    show some (overlay (some (overlay base value)) value) = some (overlay base value)
    rw [overlay_overlay]
    rintro update rfl
    exact h o n update ho hn

/-- Merging into variables that were merged before changes nothing, whatever is kept, bound twice or left out. -/
theorem merge_merge (persisted : Variables) (b : Bindings) (m : Manifest) {overrides : Option Variables}
    (h : ∀ o n update, overrides = some o → o.get? n = some (.obj update) → Entries.Rising update)
    (selection : Option (List String)) :
    merge (merge persisted b m overrides selection) b m overrides selection =
      merge persisted b m overrides selection := by
  refine Table.ext_get? fun n => ?_
  rw [get?_merge, get?_merge]
  -- Only a variable that is neither set nor dropped looks at what was persisted.
  cases bound m n (b.selected selection) with
  | some value => simp
  | none =>
    by_cases hn : n ∈ (b.defaultable selection).keys
    · simp [hn]
    · simp [hn, overridden_overridden h]

/-! ## Documents with rising keys -/

/-- The manifest's values and the overrides list the members of their objects by rising key, as every document does
that was read. -/
structure Desired.Sorted (d : Desired) : Prop where
  manifest : ∀ component attr value, d.manifest.attr? component attr = some value → value.sorted
  overrides : ∀ o, d.overrides = some o → o.All Json.sorted

theorem bound_eq_some {m : Manifest} {n : String} {value : Json} {bindings : List Binding}
    (h : bound m n bindings = some value) : ∃ b ∈ bindings, m.attr? b.component b.attr = some value := by
  induction bindings with
  | nil => cases h
  | cons b rest ih =>
    rw [bound, Option.or_eq_some_iff] at h
    rcases h with h | ⟨-, h⟩
    · obtain ⟨b', hb', hvalue⟩ := ih h
      exact ⟨b', List.mem_cons_of_mem _ hb', hvalue⟩
    · by_cases hb : b.var = n
      · rw [if_pos hb, Option.filter_eq_some_iff] at h
        exact ⟨b, List.mem_cons_self, h.1⟩
      · rw [if_neg hb] at h
        cases h

theorem overlay_sorted {base : Option Json} {value : Json} (hbase : ∀ j, base = some j → j.sorted)
    (hvalue : value.sorted) : (overlay base value).sorted := by
  unfold overlay
  split
  · rename_i members update
    have hmembers := Json.all_of_sorted (hbase _ rfl)
    exact Json.sorted_ofTable (hmembers.insertAll (Json.sortedMembers_iff.mp hvalue.2))
  · exact hvalue

namespace Desired

variable {d : Desired}

theorem Sorted.rising (h : d.Sorted) (o : Variables) (n : String) (update : List (String × Json))
    (ho : d.overrides = some o) (hn : o.get? n = some (.obj update)) : Entries.Rising update :=
  (h.overrides o ho n _ hn).1

theorem Sorted.over_over (h : d.Sorted) (persisted : Variables) : d.over (d.over persisted) = d.over persisted :=
  merge_merge persisted d.bindings d.manifest h.rising d.selection

/-- The variables computed are sorted if those persisted were. -/
theorem Sorted.over (h : d.Sorted) {persisted : Variables} (hp : persisted.All Json.sorted) :
    (d.over persisted).All Json.sorted := by
  intro n value hvalue
  unfold Desired.over at hvalue
  rw [get?_merge] at hvalue
  have hbase : ∀ j, (bound d.manifest n (d.bindings.selected d.selection)).or
      (if n ∈ (d.bindings.defaultable d.selection).keys then none else persisted.get? n) = some j → j.sorted := by
    intro j hj
    rcases Option.or_eq_some_iff.mp hj with hj | ⟨-, hj⟩
    · obtain ⟨b, -, hb⟩ := bound_eq_some hj
      exact h.manifest _ _ j hb
    · by_cases hn : n ∈ (d.bindings.defaultable d.selection).keys
      · rw [if_pos hn] at hj
        cases hj
      · rw [if_neg hn] at hj
        exact hp n j hj
  unfold overridden at hvalue
  cases ho : d.overrides.bind fun o => o.get? n with
  | none =>
    rw [ho] at hvalue
    exact hbase value hvalue
  | some update =>
    rw [ho] at hvalue
    cases hvalue
    obtain ⟨o, ho, hn⟩ := Option.bind_eq_some_iff.mp ho
    exact overlay_sorted hbase (h.overrides o ho n update hn)

end Desired

end Rollout.Variables
