import Rollout.Proofs.Doc.Yields
import Rollout.Proofs.Variables.Merge
import Rollout.Variables.Overrides

/-!
# Rollout.Proofs.Variables.Sources — what variables are computed from is sorted

A manifest and the overrides are read, and every document that is read lists the members of its objects by rising key.

* `Manifest.Sorted`: a manifest of such documents; `Manifest.decoder_yields`: one that was read.
* `Variables.parseOverrides_sorted`: overrides that were read.
* `Variables.Desired.sorted_of_manifest`: what is desired, put together from the two.
-/

namespace Rollout

/-! ## Manifests -/

/-- The documents of a component list rising keys. -/
structure Component.Sorted (c : Component) : Prop where
  config : ∀ t, c.config = some t → t.All Json.sorted
  further : c.further.All Json.sorted

/-- The documents of a manifest list rising keys. -/
structure Manifest.Sorted (m : Manifest) : Prop where
  core : m.core.All Component.Sorted
  extensions : ∀ e ∈ m.extensions, e.components.All Component.Sorted

namespace Component

theorem Sorted.attr? {c : Component} (h : c.Sorted) {name : String} {value : Json} (hvalue : c.attr? name = some value) :
    value.sorted := by
  unfold Component.attr? at hvalue
  by_cases hchannel : name = "channel"
  · rw [if_pos hchannel] at hvalue
    obtain ⟨channel, -, rfl⟩ := Option.map_eq_some_iff.mp hvalue
    trivial
  · rw [if_neg hchannel] at hvalue
    by_cases hrevision : name = "revision"
    · rw [if_pos hrevision] at hvalue
      obtain ⟨revision, -, rfl⟩ := Option.map_eq_some_iff.mp hvalue
      trivial
    · rw [if_neg hrevision] at hvalue
      by_cases hconfig : name = "config"
      · rw [if_pos hconfig] at hvalue
        obtain ⟨t, ht, rfl⟩ := Option.map_eq_some_iff.mp hvalue
        exact Json.sorted_ofTable (h.config t ht)
      · rw [if_neg hconfig] at hvalue
        exact h.further name value hvalue

theorem decoder_yields : Component.decoder.Yields Component.Sorted := by
  have hfields : (((fun channel revision config => (channel, revision, config))
      <$> Fields.optional "channel" Decoder.string
      <*> Fields.optional "revision" Decoder.u64
      <*> Fields.optional "config" (Decoder.table Decoder.json)) :
        Fields (Option String × Option Nat × Option (Table Json))).Yields
      fun r => ∀ t, r.2.2 = some t → t.All Json.sorted := by
    refine Fields.Yields.seq ?_ (Fields.optional_yields Decoder.json_yields.table "config")
    refine Fields.Yields.seq ?_ (Fields.yields_any _)
    exact (Fields.yields_any _).map fun _ _ _ _ _ hconfig => hconfig
  intro doc
  exact (Fields.spread_yields hfields _ doc).bind fun r hr => Reading.yields_pure ⟨hr.1, hr.2⟩

end Component

namespace Manifest

theorem Sorted.attr? {m : Manifest} (h : m.Sorted) {component name : String} {value : Json}
    (hvalue : m.attr? component name = some value) : value.sorted := by
  obtain ⟨c, hc, hvalue⟩ := Option.bind_eq_some_iff.mp hvalue
  refine Component.Sorted.attr? ?_ hvalue
  unfold component? at hc
  cases hcore : m.core.get? component with
  | some c' =>
    rw [hcore] at hc
    cases hc
    exact h.core component c hcore
  | none =>
    rw [hcore] at hc
    obtain ⟨e, he, hfound⟩ := List.exists_of_findSome?_eq_some hc
    exact h.extensions e he component c hfound

theorem sorted_empty : Manifest.empty.Sorted := ⟨Table.all_empty, fun _ he => nomatch he⟩

theorem Sorted.withCore {m : Manifest} (h : m.Sorted) (name : String) {c : Component} (hc : c.Sorted) :
    (m.withCore name c).Sorted :=
  ⟨h.core.insert name hc, h.extensions⟩

/-- A section that lists components. -/
theorem softwareDecoder_yields : softwareDecoder.Yields (Table.All Component.Sorted) :=
  Fields.closed_yields (Fields.withDefault_yields Component.decoder_yields.table Table.all_empty _) _

theorem coreDecoder_yields : coreDecoder.Yields (Table.All Component.Sorted) :=
  Fields.closed_yields (Fields.withDefault_yields softwareDecoder_yields Table.all_empty _) _

theorem extensionDecoder_yields : extensionDecoder.Yields fun e => e.components.All Component.Sorted := by
  refine Fields.closed_yields ?_ _
  refine Fields.Yields.seq ?_ (Fields.withDefault_yields softwareDecoder_yields Table.all_empty _)
  exact (Fields.yields_any _).map fun _ _ _ hcomponents => hcomponents

/-- A manifest that was read is sorted. -/
theorem decoder_yields : Manifest.decoder.Yields Manifest.Sorted := by
  refine Fields.closed_yields ?_ _
  refine Fields.Yields.seq ?_ (Fields.withDefault_yields extensionDecoder_yields.list (by simp) _)
  refine (Fields.withDefault_yields coreDecoder_yields Table.all_empty _).map ?_
  exact fun _ hcore _ hextensions => ⟨hcore, hextensions⟩

end Manifest

/-! ## Overrides -/

namespace Variables

theorem parseOverride_sorted {raw : String} {o : String × Json} (h : parseOverride raw = .ok o) : o.2.sorted := by
  unfold parseOverride at h
  split at h
  · cases h
  · rename_i name value _
    dsimp only at h
    split at h
    · cases h
    · split at h
      · rename_i j hj
        cases h
        exact Decoder.json_yields.ofText hj
      · cases h
        trivial

/-- Overrides that were read are sorted. -/
theorem parseOverrides_sorted {raw : List String} {overrides : Variables} (h : parseOverrides raw = .ok overrides) :
    overrides.All Json.sorted := by
  have hall : ∀ {raw : List String} {os : List (String × Json)}, raw.mapM parseOverride = .ok os →
      ∀ o ∈ os, o.2.sorted := by
    intro raw
    induction raw with
    | nil =>
      intro os hos
      cases hos
      simp
    | cons r raw ih =>
      intro os hos
      rw [List.mapM_cons] at hos
      cases hr : parseOverride r with
      | error f =>
        rw [hr] at hos
        cases hos
      | ok o =>
        cases hrest : raw.mapM parseOverride with
        | error f =>
          rw [hr, hrest] at hos
          cases hos
        | ok rest =>
          rw [hr, hrest] at hos
          cases hos
          intro o' ho'
          rcases List.mem_cons.mp ho' with rfl | ho'
          · exact parseOverride_sorted hr
          · exact ih hrest o' ho'
  unfold parseOverrides at h
  cases hos : raw.mapM parseOverride with
  | error f =>
    rw [hos] at h
    cases h
  | ok os =>
    rw [hos] at h
    cases h
    exact Table.all_ofList (hall hos)

/-! ## What is desired -/

theorem Desired.sorted_of_manifest {d : Desired} (hm : d.manifest.Sorted)
    (ho : ∀ o, d.overrides = some o → o.All Json.sorted) : d.Sorted :=
  ⟨fun _ _ _ hvalue => hm.attr? hvalue, ho⟩

end Variables

end Rollout
