import Mathlib.Data.List.Duplicate
import Mathlib.Data.List.Nodup
import Rollout.Config.Bindings
import Rollout.Proofs.Table
import Rollout.Proofs.Text.Order

/-!
# Rollout.Proofs.Config.Bindings — bindings one at a time

Which bindings a selection of components has, in which order they are listed, and which of their variables fall back to
their default, said of each binding by itself.

* `Binding.Before`: the order of bindings; `Bindings.pairwise_selected`: they are listed in it.
* `Bindings.Declares`, `Bindings.Selected`, `Bindings.Binds`: what the table of bindings says, what a selection takes in,
  and which variables are bound in it.
* `Bindings.mem_selected`, `Bindings.mem_defaultable`: the lists, in these words.
* `Bindings.Twice`, `Bindings.mem_duplicates`: the variables bound more than once are those that two attributes feed.
* `Bindings.Declares.unique`: where no variable is bound more than once, one binding feeds it.
-/

namespace Rollout

/-! ## The order of bindings -/

/-- One binding stands before another: by the bytes of their components, and within a component by those of their
attributes. -/
def Binding.Before (x y : Binding) : Prop :=
  Text.encode x.component < Text.encode y.component ∨
    x.component = y.component ∧ Text.encode x.attr < Text.encode y.attr

theorem Binding.Before.asymm {x y : Binding} (h : x.Before y) : ¬ y.Before x := by
  rintro (h' | ⟨hxy, h'⟩)
  · rcases h with h | ⟨hxy, -⟩
    · exact List.lt_asymm h h'
    · exact List.lt_irrefl _ (hxy ▸ h')
  · rcases h with h | ⟨-, h⟩
    · exact List.lt_irrefl _ (hxy ▸ h)
    · exact List.lt_asymm h h'

/-! ## Lists of bindings -/

namespace Bindings

variable {b : Bindings} {x y : Binding} {selection : Option (List String)} {component n : String}

/-- An attribute of a component feeds a variable. -/
def Declares (b : Bindings) (x : Binding) : Prop :=
  ∃ attributes, b.components.get? x.component = some attributes ∧ attributes.get? x.attr = some x.var

/-- A selection takes a component in; where there is none, every component is. -/
def Selected (selection : Option (List String)) (component : String) : Prop := ∀ names ∈ selection, component ∈ names

theorem selects_iff : selects selection component = true ↔ Selected selection component := by
  cases selection <;> simp [selects, Selected]

theorem mem_ofComponent {attributes : Table String} :
    x ∈ ofComponent component attributes ↔ x.component = component ∧ attributes.get? x.attr = some x.var := by
  obtain ⟨c, a, v⟩ := x
  simp only [ofComponent, List.mem_map, Prod.exists, Binding.mk.injEq, ← Table.mem_entries_iff]
  constructor
  · rintro ⟨_, _, hmem, rfl, rfl, rfl⟩
    exact ⟨rfl, hmem⟩
  · rintro ⟨rfl, hmem⟩
    exact ⟨a, v, hmem, rfl, rfl, rfl⟩

theorem mem_selected : x ∈ b.selected selection ↔ b.Declares x ∧ Selected selection x.component := by
  simp only [selected, List.mem_flatMap, List.mem_filter, Prod.exists, mem_ofComponent, Declares,
    Table.mem_entries_iff, selects_iff]
  constructor
  · rintro ⟨_, attributes, ⟨hget, hselected⟩, rfl, hvar⟩
    exact ⟨⟨attributes, hget, hvar⟩, hselected⟩
  · rintro ⟨⟨attributes, hget, hvar⟩, hselected⟩
    exact ⟨_, attributes, ⟨hget, hselected⟩, rfl, hvar⟩

/-- The bindings of a selection are listed in their order. -/
theorem pairwise_selected : (b.selected selection).Pairwise Binding.Before := by
  refine List.pairwise_flatMap.mpr ⟨?_, ?_⟩
  · rintro ⟨component, attributes⟩ -
    refine List.pairwise_map.mpr (attributes.rising.imp ?_)
    exact fun hattr => .inr ⟨rfl, Text.encode_lt_iff.mpr hattr⟩
  · refine (b.components.rising.filter _).imp ?_
    rintro ⟨component, attributes⟩ ⟨component', attributes'⟩ hlt x hx y hy
    obtain ⟨rfl, -⟩ := mem_ofComponent.mp hx
    obtain ⟨rfl, -⟩ := mem_ofComponent.mp hy
    exact .inl (Text.encode_lt_iff.mpr hlt)

/-- Some binding of a selected component feeds a variable. -/
def Binds (b : Bindings) (selection : Option (List String)) (n : String) : Prop :=
  ∃ x, b.Declares x ∧ Selected selection x.component ∧ x.var = n

theorem mem_defaultable :
    n ∈ (b.defaultable selection).keys ↔ b.Binds selection n ∧ b.preserve.contains n = false := by
  rw [defaultable, Table.mem_keys_ofList]
  simp only [List.map_map, List.mem_map, List.mem_filter, mem_selected, Function.comp_apply, Bool.not_eq_true']
  constructor
  · rintro ⟨x, ⟨⟨hdeclared, hselected⟩, hloose⟩, rfl⟩
    exact ⟨⟨x, hdeclared, hselected, rfl⟩, hloose⟩
  · rintro ⟨⟨x, hdeclared, hselected, rfl⟩, hloose⟩
    exact ⟨x, ⟨⟨hdeclared, hselected⟩, hloose⟩, rfl⟩

/-! ## Variables bound once and twice -/

theorem mem_repeated {vars : List String} : n ∈ repeated vars ↔ vars.Duplicate n := by
  induction vars with
  | nil => simp [repeated]
  | cons v rest ih =>
    rw [repeated, List.duplicate_cons_iff, ← ih]
    by_cases hv : v ∈ rest
    · rw [if_pos (List.contains_iff_mem.mpr hv), List.mem_cons]
      constructor
      · rintro (rfl | h)
        · exact .inl ⟨rfl, hv⟩
        · exact .inr h
      · rintro (⟨rfl, -⟩ | h)
        · exact .inl rfl
        · exact .inr h
    · rw [if_neg (by simpa using hv)]
      constructor
      · exact .inr
      · rintro (⟨rfl, h⟩ | h)
        · exact absurd h hv
        · exact h

theorem mem_duplicates_iff_duplicate : n ∈ b.duplicates ↔ (b.all.map (·.var)).Duplicate n := by
  rw [duplicates, Table.mem_keys_ofList, ← mem_repeated]
  simp

theorem nodup_of_duplicates (h : b.duplicates = []) : (b.all.map (·.var)).Nodup := by
  refine List.nodup_iff_forall_not_duplicate.mpr fun v hv => ?_
  have hmem : v ∈ b.duplicates := mem_duplicates_iff_duplicate.mpr hv
  rw [h] at hmem
  cases hmem

/-- Two attributes feed one variable. -/
def Twice (b : Bindings) (n : String) : Prop := ∃ x y, b.Declares x ∧ b.Declares y ∧ x ≠ y ∧ x.var = n ∧ y.var = n

/-- What two items of a list without repetitions are mapped to is repeated, and nothing else is. -/
theorem duplicate_map_iff {l : List Binding} (hl : l.Nodup) :
    (l.map (·.var)).Duplicate n ↔ ∃ x ∈ l, ∃ y ∈ l, x ≠ y ∧ x.var = n ∧ y.var = n := by
  induction l with
  | nil => simp
  | cons z l ih =>
    obtain ⟨hz, hl⟩ := List.nodup_cons.mp hl
    rw [List.map_cons, List.duplicate_cons_iff, ih hl]
    constructor
    · rintro (⟨hvar, hmem⟩ | ⟨x, hx, y, hy, hne, hvars⟩)
      · obtain ⟨y, hy, hvar'⟩ := List.mem_map.mp hmem
        exact ⟨z, List.mem_cons_self, y, List.mem_cons_of_mem _ hy, fun heq => hz (heq ▸ hy), hvar, hvar'⟩
      · exact ⟨x, List.mem_cons_of_mem _ hx, y, List.mem_cons_of_mem _ hy, hne, hvars⟩
    · rintro ⟨x, hx, y, hy, hne, hvar, hvar'⟩
      rcases List.mem_cons.mp hx with rfl | hxl
      · have hyl := (List.mem_cons.mp hy).resolve_left (Ne.symm hne)
        exact .inl ⟨hvar, List.mem_map.mpr ⟨y, hyl, hvar'⟩⟩
      · rcases List.mem_cons.mp hy with rfl | hyl
        · exact .inl ⟨hvar', List.mem_map.mpr ⟨x, hxl, hvar⟩⟩
        · exact .inr ⟨x, hxl, y, hyl, hne, hvar, hvar'⟩

theorem nodup_all : b.all.Nodup := by
  refine pairwise_selected.imp fun {x y} hbefore => ?_
  rintro rfl
  exact hbefore.asymm hbefore

theorem mem_all : x ∈ b.all ↔ b.Declares x := by simp [all, mem_selected, Selected]

/-- The variables bound more than once are those that two attributes feed. -/
theorem mem_duplicates : n ∈ b.duplicates ↔ b.Twice n := by
  rw [mem_duplicates_iff_duplicate, duplicate_map_iff nodup_all]
  simp only [mem_all, Twice]
  constructor
  · rintro ⟨x, hx, y, hy, hne, hvars⟩
    exact ⟨x, y, hx, hy, hne, hvars⟩
  · rintro ⟨x, y, hx, hy, hne, hvars⟩
    exact ⟨x, hx, y, hy, hne, hvars⟩

/-- The variables bound more than once are listed in the order of their bytes. -/
theorem pairwise_duplicates (b : Bindings) :
    b.duplicates.Pairwise fun v v' => Text.encode v < Text.encode v' :=
  List.pairwise_map.mpr ((Table.rising _).imp Text.encode_lt_iff.mpr)

/-- Where no variable is bound more than once, it is fed by one binding only. -/
theorem Declares.unique (h : b.duplicates = []) (hx : b.Declares x) (hy : b.Declares y) (hvar : x.var = y.var) :
    x = y := by
  exact List.inj_on_of_nodup_map (nodup_of_duplicates h) (mem_all.mpr hx) (mem_all.mpr hy) hvar

end Bindings

end Rollout
