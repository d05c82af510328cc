import Rollout.Proofs.Variables.Pointwise

/-!
# Rollout.Proofs.Variables.Refresh — refreshing some components at a time

A merge for a selection of components refreshes their variables and takes the overrides in.  Where no variable is bound
twice, each of them depends on one component, so refreshes add up, whatever their order.

* `Variables.below_of_single`: a variable is refreshed with its component, and stays as it is without.
* `Variables.merge_append`: two refreshes are one.
* `Variables.Refreshes`, `Variables.refreshes`: their order, and one component after another.
-/

namespace Rollout.Variables

variable {persisted : Variables} {b : Bindings} {m : Manifest} {overrides : Option Variables}
  {selection : Option (List String)}

/-- A change that leaves everything as it is, or does not look at what was there. -/
def Flat (f : Option Json → Option Json) : Prop := (∀ j, f j = j) ∨ ∃ value, ∀ j, f j = value

theorem Flat.refreshed {f : Option Json → Option Json} (h : Flat f) {g : Option Json → Option Json}
    (hg : ∀ j, g (g j) = g j) (j : Option Json) : g (f (g (f j))) = g (f j) ∧ g (f (g j)) = g (f j) := by
  rcases h with h | ⟨value, h⟩
  · rw [h, h, h, hg]
    exact ⟨rfl, rfl⟩
  · rw [h, h, h]
    exact ⟨rfl, rfl⟩

/-- A variable that one binding feeds: what the manifest has for it stands, then what is kept. -/
theorem below_of_declares (h : b.duplicates = []) {x : Binding} (hx : b.Declares x) (persisted : Variables)
    (m : Manifest) (selection : Option (List String)) : below persisted b m selection x.var =
      if Bindings.selects selection x.component then
        (told m x.var x).or (if b.preserve.contains x.var then persisted.get? x.var else none)
      else persisted.get? x.var := by
  have honly {y : Binding} (hy : b.Declares y) (hvar : y.var = x.var) : y = x := hy.unique h hx hvar
  refine (base_iff.mp ?_).symm
  by_cases hselected : Bindings.selects selection x.component = true
  · rw [if_pos hselected]
    rw [Bindings.selects_iff] at hselected
    cases htold : told m x.var x with
    | some value =>
      have hfeeds : Feeds b m selection x.var x value :=
        feeds_iff.mpr ⟨Bindings.mem_selected.mpr ⟨hx, hselected⟩, htold⟩
      exact .set hfeeds fun y v hy => .inl (honly hy.declared hy.var)
    | none =>
      have hunset (y : Binding) (v : Json) : ¬ Feeds b m selection x.var y v := by
        intro hy
        obtain rfl := honly hy.declared hy.var
        rw [(feeds_iff.mp hy).2] at htold
        cases htold
      rw [Option.none_or]
      cases hkept : b.preserve.contains x.var with
      | true => exact .kept hunset (.inl hkept)
      | false => exact .reset hunset ⟨x, hx, hselected, rfl⟩ hkept
  · rw [if_neg hselected]
    rw [Bindings.selects_iff] at hselected
    refine .kept (fun y v hy => hselected ?_) (.inr ?_)
    · exact honly hy.declared hy.var ▸ hy.selected
    · rintro ⟨y, hy, hyselected, hvar⟩
      exact hselected (honly hy hvar ▸ hyselected)

/-- A variable is refreshed with its component, and stays as it is without. -/
theorem below_of_single (h : b.duplicates = []) (m : Manifest) (n : String) : ∃ component f, Flat f ∧
    ∀ selection persisted, below persisted b m selection n =
      if Bindings.selects selection component then f (persisted.get? n) else persisted.get? n := by
  by_cases hx : ∃ x, b.Declares x ∧ x.var = n
  · obtain ⟨x, hx, rfl⟩ := hx
    refine ⟨x.component, fun j => (told m x.var x).or (if b.preserve.contains x.var then j else none), ?_,
      fun selection persisted => below_of_declares h hx persisted m selection⟩
    cases told m x.var x with
    | some value => exact .inr ⟨some value, fun j => rfl⟩
    | none =>
      cases b.preserve.contains x.var with
      | true => exact .inl fun j => rfl
      | false => exact .inr ⟨none, fun j => rfl⟩
  · refine ⟨"", id, .inl fun j => rfl, fun selection persisted => ?_⟩
    rw [id, ite_self]
    refine (base_iff.mp (.kept (fun y v hy => hx ⟨y, hy.declared, hy.var⟩) (.inr ?_))).symm
    rintro ⟨y, hy, -, hn⟩
    exact hx ⟨y, hy, hn⟩

/-- Two refreshes are one of the components of both. -/
theorem merge_append (h : b.duplicates = []) (ho : ∀ o ∈ overrides, o.All Json.sorted) (persisted : Variables)
    (m : Manifest) (first second : List String) :
    merge (merge persisted b m overrides (some first)) b m overrides (some second) =
      merge persisted b m overrides (some (first ++ second)) := by
  refine Table.ext_get? fun n => ?_
  have hidem (j : Option Json) : overridden overrides n (overridden overrides n j) = overridden overrides n j :=
    overridden_overridden (fun o n update hsome hn => (ho o hsome n _ hn).1) n j
  obtain ⟨component, f, hf, hbelow⟩ := below_of_single h m n
  have hselects : Bindings.selects (some (first ++ second)) component =
      (Bindings.selects (some first) component || Bindings.selects (some second) component) := by
    simp [Bindings.selects]
  obtain ⟨htwice, honce⟩ := hf.refreshed hidem (persisted.get? n)
  simp only [get?_merge_below, hbelow, hselects]
  cases Bindings.selects (some first) component <;> cases Bindings.selects (some second) component
  · exact hidem _
  · exact honce
  · exact hidem _
  · exact htwice

/-- Only the components that are bound count in a selection. -/
theorem merge_of_covers {names : List String} (h : ∀ c ∈ b.components.keys, c ∈ names) (persisted : Variables)
    (m : Manifest) (overrides : Option Variables) :
    merge persisted b m overrides (some names) = merge persisted b m overrides none := by
  have hselected : b.selected (some names) = b.selected none := by
    unfold Bindings.selected
    congr 1
    refine List.filter_congr fun e he => ?_
    have hmem : e.1 ∈ names := h e.1 (List.mem_map_of_mem he)
    simpa [Bindings.selects] using hmem
  unfold merge Bindings.defaultable
  rw [hselected]

/-- Refreshes one component after another. -/
def refreshEach (b : Bindings) (m : Manifest) (overrides : Option Variables) (persisted : Variables)
    (components : List String) : Variables :=
  components.foldl (fun vars c => merge vars b m overrides (some [c])) persisted

theorem refreshEach_cons (h : b.duplicates = []) (ho : ∀ o ∈ overrides, o.All Json.sorted) (persisted : Variables)
    (m : Manifest) (c : String) (rest : List String) :
    refreshEach b m overrides persisted (c :: rest) = merge persisted b m overrides (some (c :: rest)) := by
  have hfrom (names : List String) : refreshEach b m overrides (merge persisted b m overrides (some names)) rest =
      merge persisted b m overrides (some (names ++ rest)) := by
    induction rest generalizing names with
    | nil => rw [List.append_nil]; rfl
    | cons c' rest ih =>
      have hstep := merge_append h ho persisted m names [c']
      show refreshEach b m overrides (merge _ b m overrides (some [c'])) rest = _
      rw [hstep, ih, List.append_assoc]
      rfl
  exact hfrom [c]

/-- Refreshes add up, in any order, and one component after another makes an unrestricted refresh as soon as there is
a component; where there is none nothing is refreshed, so that the overrides must change nothing. -/
structure Refreshes (b : Bindings) (m : Manifest) (overrides : Option Variables) : Prop where
  append : ∀ persisted first second, merge (merge persisted b m overrides (some first)) b m overrides (some second) =
    merge persisted b m overrides (some (first ++ second))
  swap : ∀ persisted first second, merge (merge persisted b m overrides (some first)) b m overrides (some second) =
    merge (merge persisted b m overrides (some second)) b m overrides (some first)
  each : ∀ persisted components, (∀ c ∈ b.components.keys, c ∈ components) →
    (refreshEach b m overrides persisted components = merge persisted b m overrides none ↔
      components ≠ [] ∨ merge persisted b m overrides none = persisted)

theorem refreshes (h : b.duplicates = []) (m : Manifest) (ho : ∀ o ∈ overrides, o.All Json.sorted) :
    Refreshes b m overrides := by
  have happend (persisted : Variables) := merge_append h ho persisted m
  constructor
  case append => exact happend
  case swap =>
    intro persisted first second
    rw [happend, happend]
    have hselects (c : String) : Bindings.selects (some (first ++ second)) c =
        Bindings.selects (some (second ++ first)) c := by
      simp [Bindings.selects, Bool.or_comm]
    unfold merge Bindings.defaultable Bindings.selected
    simp only [hselects]
  case each =>
    intro persisted components hcovers
    cases components with
    | nil =>
      simp only [refreshEach, List.foldl_nil, ne_eq, not_true_eq_false, false_or]
      exact eq_comm
    | cons c rest =>
      rw [refreshEach_cons h ho, merge_of_covers hcovers]
      simp

/-- What an operator sets for a cloud of one region. -/
def region : Variables := Table.empty.insert "region" (.obj [("name", .str "RegionOne")])

theorem region_sorted : ∀ o ∈ some region, o.All Json.sorted := by
  rintro _ ⟨⟩
  exact Table.all_empty.insert _ ⟨List.pairwise_singleton _ _, trivial, trivial⟩

/-- Two components, of which one has a variable that is kept. -/
def cloud : Bindings :=
  ((Bindings.empty.bind "keystone-k8s" "channel" "keystone-channel").bind "nova-k8s" "config" "nova-config").keep
    "nova-config"

/-- The manifest sets the channel of one of them. -/
def cloudManifest : Manifest :=
  Manifest.empty.withCore "keystone-k8s" ⟨some "2024.1/stable", none, none, Table.empty⟩

/-- What was persisted for the other one, and for a region of another name. -/
def cloudBefore : Variables :=
  (Table.empty.insert "nova-config" (.obj [("debug", .bool true)])).insert "region" (.obj [("zone", .str "nova")])

theorem refreshes_cloud : cloud.duplicates = [] ∧ (∀ o ∈ some region, o.All Json.sorted) ∧
    merge (merge cloudBefore cloud cloudManifest (some region) (some ["nova-k8s"])) cloud cloudManifest (some region)
        (some ["keystone-k8s"]) =
      merge cloudBefore cloud cloudManifest (some region) (some ["nova-k8s", "keystone-k8s"]) ∧
    refreshEach cloud cloudManifest (some region) cloudBefore ["nova-k8s", "keystone-k8s"] =
      merge cloudBefore cloud cloudManifest (some region) none := by
  have hsingle : cloud.duplicates = [] := by decide +kernel
  have hcovers : ∀ c ∈ cloud.components.keys, c ∈ ["nova-k8s", "keystone-k8s"] := by decide +kernel
  have hrefreshes : Refreshes cloud cloudManifest (some region) := refreshes hsingle cloudManifest region_sorted
  refine ⟨hsingle, region_sorted, hrefreshes.append _ _ _, ?_⟩
  exact (hrefreshes.each _ _ hcovers).mpr (.inl (List.cons_ne_nil _ _))

/-- Without components there is none to refresh one after another, and an unrestricted refresh still takes the
overrides in. -/
theorem region_left_out : Bindings.empty.duplicates = [] ∧
    refreshEach Bindings.empty Manifest.empty (some region) Table.empty Bindings.empty.components.keys ≠
      merge Table.empty Bindings.empty Manifest.empty (some region) none := by
  refine ⟨rfl, fun h => ?_⟩
  have hregion := congrArg (fun vars => Table.get? vars "region") h
  cases hregion

end Rollout.Variables
