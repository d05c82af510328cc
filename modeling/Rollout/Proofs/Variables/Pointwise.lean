import Rollout.Proofs.Config.Bindings
import Rollout.Proofs.Variables.Merge

/-!
# Rollout.Proofs.Variables.Pointwise — one variable of a plan, without the loops

The three layers of a merge are loops that remove, overwrite and extend.  What they leave under one name can be said at
once, from the bindings of that name, what was persisted under it and what overrides it.

* `Manifest.Holds`: what a manifest holds under the name of a component.
* `Variables.Feeds`: a binding has a value for a variable.
* `Variables.Base`, `Variables.Overlaid`: the value of a variable below the overrides, and with them.
* `Variables.merge_pointwise`: the variables of a plan are those, and no others.
-/

namespace Rollout

/-! ## Manifests -/

/-- What a manifest holds under the name of a component: what the core section has, and where that has nothing, what
the first extension has that knows the name. -/
inductive Manifest.Holds (m : Manifest) (name : String) (c : Component) : Prop
  | core (found : m.core.get? name = some c)
  | extension {before after : List Extension} {e : Extension} (missing : m.core.get? name = none)
      (split : m.extensions = before ++ e :: after) (first : ∀ e' ∈ before, e'.components.get? name = none)
      (found : e.components.get? name = some c)

theorem Manifest.component?_eq_some_iff {m : Manifest} {name : String} {c : Component} :
    m.component? name = some c ↔ m.Holds name c := by
  unfold component?
  cases hcore : m.core.get? name with
  | some c' =>
    constructor
    · rintro ⟨⟩
      exact .core hcore
    · rintro (hfound | ⟨hmissing, -, -, -⟩)
      · exact hcore.symm.trans hfound
      · rw [hcore] at hmissing
        cases hmissing
  | none =>
    dsimp only
    rw [List.findSome?_eq_some_iff]
    constructor
    · rintro ⟨before, e, after, hsplit, hfound, hfirst⟩
      exact .extension hcore hsplit hfirst hfound
    · rintro (hfound | ⟨-, hsplit, hfirst, hfound⟩)
      · rw [hcore] at hfound
        cases hfound
      · exact ⟨_, _, _, hsplit, hfound, hfirst⟩

theorem Manifest.attr?_eq_some_iff {m : Manifest} {component attr : String} {value : Json} :
    m.attr? component attr = some value ↔ ∃ c, m.Holds component c ∧ c.attr? attr = some value := by
  simp only [attr?, Option.bind_eq_some_iff, component?_eq_some_iff]

namespace Variables

variable {persisted : Variables} {b : Bindings} {m : Manifest} {overrides : Option Variables}
  {selection : Option (List String)} {n : String}

/-! ## Below the overrides -/

/-- A binding of a selected component feeds a variable, and the manifest sets its attribute to a value. -/
structure Feeds (b : Bindings) (m : Manifest) (selection : Option (List String)) (n : String) (x : Binding)
    (value : Json) : Prop where
  declared : b.Declares x
  selected : Bindings.Selected selection x.component
  var : x.var = n
  held : ∃ c, m.Holds x.component c ∧ c.attr? x.attr = some value
  truthy : value.isTruthy = true

/-- The value of a variable below the overrides: that of the last binding which has one; without any, none where the
variable is bound and not kept, and else the persisted one. -/
inductive Base (persisted : Variables) (b : Bindings) (m : Manifest) (selection : Option (List String)) (n : String) :
    Option Json → Prop
  | set {x : Binding} {value : Json} (feeds : Feeds b m selection n x value)
      (last : ∀ y v, Feeds b m selection n y v → y = x ∨ y.Before x) : Base persisted b m selection n (some value)
  | reset (unset : ∀ y v, ¬ Feeds b m selection n y v) (bound : b.Binds selection n)
      (loose : b.preserve.contains n = false) : Base persisted b m selection n none
  | kept (unset : ∀ y v, ¬ Feeds b m selection n y v)
      (free : b.preserve.contains n = true ∨ ¬ b.Binds selection n) : Base persisted b m selection n (persisted.get? n)

/-- The value that the manifest has for a variable by one binding. -/
def told (m : Manifest) (n : String) (x : Binding) : Option Json :=
  if x.var = n then (m.attr? x.component x.attr).filter Json.isTruthy else none

theorem bound_cons (x : Binding) (rest : List Binding) : bound m n (x :: rest) = (bound m n rest).or (told m n x) := rfl

theorem feeds_iff {x : Binding} {value : Json} :
    Feeds b m selection n x value ↔ x ∈ b.selected selection ∧ told m n x = some value := by
  have htold : told m n x = some value ↔ x.var = n ∧
      (∃ c, m.Holds x.component c ∧ c.attr? x.attr = some value) ∧ value.isTruthy = true := by
    unfold told
    split
    · simp [*, Option.filter_eq_some_iff, Manifest.attr?_eq_some_iff]
    · simp [*]
  rw [htold, Bindings.mem_selected]
  constructor
  · rintro ⟨hdeclared, hselected, hvar, hheld, htruthy⟩
    exact ⟨⟨hdeclared, hselected⟩, hvar, hheld, htruthy⟩
  · rintro ⟨⟨hdeclared, hselected⟩, hvar, hheld, htruthy⟩
    exact ⟨hdeclared, hselected, hvar, hheld, htruthy⟩

theorem bound_eq_none_iff {bindings : List Binding} : bound m n bindings = none ↔ ∀ x ∈ bindings, told m n x = none := by
  induction bindings with
  | nil => simp [bound]
  | cons x rest ih => rw [bound_cons, Option.or_eq_none_iff, ih, List.forall_mem_cons, and_comm]

/-- Of bindings in their order the last one that has a value counts. -/
theorem bound_eq_some_iff {bindings : List Binding} (h : bindings.Pairwise Binding.Before) {value : Json} :
    bound m n bindings = some value ↔ ∃ x ∈ bindings, told m n x = some value ∧
      ∀ y ∈ bindings, ∀ v, told m n y = some v → y = x ∨ y.Before x := by
  induction bindings with
  | nil => simp [bound]
  | cons z rest ih =>
    obtain ⟨hfirst, hrest⟩ := List.pairwise_cons.mp h
    rw [bound_cons, Option.or_eq_some_iff, ih hrest]
    constructor
    · rintro (⟨x, hx, hvalue, hlast⟩ | ⟨hnone, hvalue⟩)
      · refine ⟨x, List.mem_cons_of_mem _ hx, hvalue, fun y hy v hv => ?_⟩
        rcases List.mem_cons.mp hy with rfl | hy
        · exact .inr (hfirst x hx)
        · exact hlast y hy v hv
      · refine ⟨z, List.mem_cons_self, hvalue, fun y hy v hv => ?_⟩
        rcases List.mem_cons.mp hy with rfl | hy
        · exact .inl rfl
        · rw [bound_eq_none_iff.mp hnone y hy] at hv
          cases hv
    · rintro ⟨x, hx, hvalue, hlast⟩
      rcases List.mem_cons.mp hx with rfl | hx
      · refine .inr ⟨bound_eq_none_iff.mpr fun y hy => ?_, hvalue⟩
        -- A later binding with a value would have to stand before this one too.
        refine Option.eq_none_iff_forall_ne_some.mpr fun v hv => ?_
        rcases hlast y (List.mem_cons_of_mem _ hy) v hv with rfl | hbefore
        · exact (hfirst y hy).asymm (hfirst y hy)
        · exact (hfirst y hy).asymm hbefore
      · exact .inl ⟨x, hx, hvalue, fun y hy => hlast y (List.mem_cons_of_mem _ hy)⟩

/-- The value of a variable below the overrides, as the first two loops leave it. -/
def below (persisted : Variables) (b : Bindings) (m : Manifest) (selection : Option (List String)) (n : String) :
    Option Json :=
  (bound m n (b.selected selection)).or
    (if n ∈ (b.defaultable selection).keys then none else persisted.get? n)

theorem get?_merge_below (persisted : Variables) (b : Bindings) (m : Manifest) (overrides : Option Variables)
    (selection : Option (List String)) (n : String) :
    (merge persisted b m overrides selection).get? n = overridden overrides n (below persisted b m selection n) :=
  get?_merge persisted b m overrides selection n

theorem base_iff {base : Option Json} : Base persisted b m selection n base ↔ base = below persisted b m selection n := by
  have hunset : (∀ y v, ¬ Feeds b m selection n y v) ↔ bound m n (b.selected selection) = none := by
    rw [bound_eq_none_iff]
    simp only [feeds_iff, Option.eq_none_iff_forall_ne_some, not_and]
    exact ⟨fun h y hy v hv => h y v hy hv, fun h y v hy hv => h y hy v hv⟩
  have hset {value : Json} : bound m n (b.selected selection) = some value ↔ ∃ x, Feeds b m selection n x value ∧
      ∀ y v, Feeds b m selection n y v → y = x ∨ y.Before x := by
    rw [bound_eq_some_iff Bindings.pairwise_selected]
    simp only [feeds_iff]
    constructor
    · rintro ⟨x, hx, hvalue, hlast⟩
      exact ⟨x, ⟨hx, hvalue⟩, fun y v hy => hlast y hy.1 v hy.2⟩
    · rintro ⟨x, ⟨hx, hvalue⟩, hlast⟩
      exact ⟨x, hx, hvalue, fun y hy v hv => hlast y v ⟨hy, hv⟩⟩
  unfold below
  constructor
  · rintro (⟨hfeeds, hlast⟩ | ⟨hnone, hbound, hloose⟩ | ⟨hnone, hfree⟩)
    · rw [hset.mpr ⟨_, hfeeds, hlast⟩]
      rfl
    · rw [hunset.mp hnone, if_pos (Bindings.mem_defaultable.mpr ⟨hbound, hloose⟩)]
      rfl
    · rw [hunset.mp hnone, if_neg]
      · rfl
      · rw [Bindings.mem_defaultable]
        rintro ⟨hbound, hloose⟩
        rcases hfree with hkept | hfree
        · rw [hkept] at hloose
          cases hloose
        · exact hfree hbound
  · rintro rfl
    cases hvalue : bound m n (b.selected selection) with
    | some value =>
      obtain ⟨x, hfeeds, hlast⟩ := hset.mp hvalue
      exact .set hfeeds hlast
    | none =>
      by_cases hn : n ∈ (b.defaultable selection).keys
      · rw [if_pos hn]
        exact .reset (hunset.mpr hvalue) (Bindings.mem_defaultable.mp hn).1 (Bindings.mem_defaultable.mp hn).2
      · rw [if_neg hn]
        refine .kept (hunset.mpr hvalue) ?_
        by_contra hfree
        rw [not_or, not_not] at hfree
        exact hn (Bindings.mem_defaultable.mpr ⟨hfree.2, Bool.not_eq_true _ ▸ hfree.1⟩)

/-! ## Overrides -/

/-- The value of a variable under overrides: without one it stays; an object that overrides an object extends it, and
its own members go first; any other override stands alone. -/
inductive Overlaid (overrides : Option Variables) (n : String) (base : Option Json) : Option Json → Prop
  | untouched (silent : ∀ o ∈ overrides, o.get? n = none) : Overlaid overrides n base base
  | extended {o : Variables} {members update : List (String × Json)} {r : Table Json} (present : o ∈ overrides)
      (found : o.get? n = some (.obj update)) (object : base = some (.obj members))
      (union : ∀ k, r.get? k = ((Table.ofList update).get? k).or ((Table.ofList members).get? k)) :
      Overlaid overrides n base (some (.ofTable r))
  | replaced {o : Variables} {value : Json} (present : o ∈ overrides) (found : o.get? n = some value)
      (other : ∀ update members, value = .obj update → base ≠ some (.obj members)) :
      Overlaid overrides n base (some value)

theorem overlaid_iff {base value : Option Json} :
    Overlaid overrides n base value ↔ value = overridden overrides n base := by
  have hset {o : Variables} {update : Json} (ho : o ∈ overrides) (hn : o.get? n = some update) :
      overridden overrides n base = some (overlay base update) := by
    cases Option.mem_def.mp ho
    unfold overridden
    rw [Option.bind_some, hn]
  have hunion {r : Table Json} {members update : List (String × Json)} :
      (∀ k, r.get? k = ((Table.ofList update).get? k).or ((Table.ofList members).get? k)) ↔
        r = (Table.ofList members).insertAll update := by
    simp only [← Table.get?_insertAll_ofList]
    exact ⟨Table.ext_get?, fun h k => by rw [h]⟩
  constructor
  · rintro (hsilent | ⟨ho, hn, rfl, hr⟩ | ⟨ho, hn, hother⟩)
    · unfold overridden
      rw [Option.bind_eq_none_iff.mpr hsilent]
    · rw [hset ho hn, hunion.mp hr]
      rfl
    · rw [hset ho hn]
      unfold overlay
      split
      · exact absurd rfl (hother _ _ rfl)
      · rfl
  · rintro rfl
    cases hvalue : overrides.bind fun o => o.get? n with
    | none =>
      have hsame : overridden overrides n base = base := by
        unfold overridden
        rw [hvalue]
      rw [hsame]
      exact .untouched (Option.bind_eq_none_iff.mp hvalue)
    | some update =>
      obtain ⟨o, ho, hn⟩ := Option.bind_eq_some_iff.mp hvalue
      rw [hset ho hn]
      unfold overlay
      split
      · exact .extended ho hn rfl (hunion.mpr rfl)
      · rename_i hother
        exact .replaced ho hn fun update members hupdate hmembers => hother members update hmembers hupdate

/-! ## Variables -/

/-- What a variable of a plan is, by itself. -/
def Follows (persisted : Variables) (b : Bindings) (m : Manifest) (overrides : Option Variables)
    (selection : Option (List String)) (n : String) (value : Option Json) : Prop :=
  ∃ base, Base persisted b m selection n base ∧ Overlaid overrides n base value

theorem follows_iff {value : Option Json} : Follows persisted b m overrides selection n value ↔
    value = (merge persisted b m overrides selection).get? n := by
  simp [Follows, base_iff, overlaid_iff, get?_merge_below]

/-- What the variables of a plan are: each follows by itself, and they are the only variables of which that holds.
None appears that no layer has, and one that is kept, or that no selected component feeds, stays as it was persisted
unless the manifest or the overrides set it. -/
structure Pointwise (persisted : Variables) (b : Bindings) (m : Manifest) (overrides : Option Variables)
    (selection : Option (List String)) (vars : Variables) : Prop where
  value : ∀ n, Follows persisted b m overrides selection n (vars.get? n)
  only : ∀ vars' : Variables, (∀ n, Follows persisted b m overrides selection n (vars'.get? n)) → vars' = vars
  names : ∀ n ∈ vars.keys, (∃ x v, Feeds b m selection n x v) ∨ (∃ o ∈ overrides, n ∈ o.keys) ∨
    n ∈ persisted.keys ∧ (b.preserve.contains n = true ∨ ¬ b.Binds selection n)
  kept : ∀ n, b.preserve.contains n = true ∨ ¬ b.Binds selection n → (∀ x v, ¬ Feeds b m selection n x v) →
    (∀ o ∈ overrides, n ∉ o.keys) → vars.get? n = persisted.get? n

/-- The variables of a plan, one at a time. -/
theorem merge_pointwise (persisted : Variables) (b : Bindings) (m : Manifest) (overrides : Option Variables)
    (selection : Option (List String)) :
    Pointwise persisted b m overrides selection (merge persisted b m overrides selection) := by
  have hsilent {n : String} {o : Variables} : n ∉ o.keys ↔ o.get? n = none := by
    simp [Table.mem_keys, Option.eq_none_iff_forall_ne_some]
  constructor
  case value => exact fun n => follows_iff.mpr rfl
  case only => exact fun vars' h => Table.ext_get? fun n => follows_iff.mp (h n)
  case names =>
    intro n hn
    obtain ⟨value, hvalue⟩ := Table.mem_keys.mp hn
    obtain ⟨base, hbase, hoverlaid⟩ := follows_iff.mpr hvalue.symm
    by_cases ho : ∃ o ∈ overrides, n ∈ o.keys
    · exact .inr (.inl ho)
    · cases hoverlaid with
      | extended present found => exact absurd ⟨_, present, Table.mem_keys.mpr ⟨_, found⟩⟩ ho
      | replaced present found => exact absurd ⟨_, present, Table.mem_keys.mpr ⟨_, found⟩⟩ ho
      | untouched =>
        generalize hsome : some value = base at hbase
        cases hbase with
        | set feeds => exact .inl ⟨_, _, feeds⟩
        | reset => cases hsome
        | kept unset free => exact .inr (.inr ⟨Table.mem_keys.mpr ⟨value, hsome.symm⟩, free⟩)
  case kept =>
    intro n hfree hunset ho
    exact (follows_iff.mp ⟨_, .kept hunset hfree, .untouched fun o hmem => hsilent.mp (ho o hmem)⟩).symm

end Variables

end Rollout
