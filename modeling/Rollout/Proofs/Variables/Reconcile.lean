import Rollout.Proofs.Doc.Values
import Rollout.Proofs.Host
import Rollout.Proofs.Variables.Merge

/-!
# Rollout.Proofs.Variables.Reconcile — variables that were persisted

What an entry of the registry stands for, and what is computed from it.

* `ofEntry`: the variables of an entry; `ofEntry_ofTable`: those persisted are those found again.
* `read_ends`, `reconcile_ends`: reading an entry, and computing variables from it.
-/

namespace Rollout.Variables

/-- The variables that an entry stands for; where there is none there are none. -/
def ofEntry : Option Json → Variables
  | some (.obj members) => Table.ofList (Json.sortMembers members)
  | _ => Table.empty

theorem ofEntry_sorted (entry : Option Json) : (ofEntry entry).All Json.sorted := by
  unfold ofEntry
  split
  · rename_i members
    exact Table.all_ofList (Json.sortMembers_sorted members)
  · exact Table.all_empty

/-- Variables that were persisted are found again as they were. -/
theorem ofEntry_ofTable {vars : Variables} (h : vars.All Json.sorted) : ofEntry (some (.ofTable vars)) = vars := by
  show Table.ofList (Json.sortMembers vars.entries) = vars
  rw [Json.sortMembers_eq_self (Json.sortedMembers_iff.mpr (Table.all_iff_entries.mp h)), Table.ofList_entries]

theorem decoder_ofJson {j : Json} {vars : Variables} (h : decoder.ofJson j = .ok vars) :
    vars = ofEntry (some j) := by
  by_cases hobj : ∃ members, j = .obj members
  · obtain ⟨members, rfl⟩ := hobj
    have htable : decoder.ofJson (.obj members) = .ok (Table.ofList (Json.sortMembers members)) :=
      Decoder.table_ofJson members
    rw [htable] at h
    cases h
    rfl
  · obtain ⟨fault, hfault⟩ := Decoder.table_ofJson_error fun members hj => hobj ⟨members, hj⟩
    have hfault : decoder.ofJson j = .error fault := hfault
    rw [hfault] at h
    cases h

section Registry

variable {σ : Type} [Host σ] {reg : Registry} {endpoint : Option String} (hreg : reg = .shared endpoint) (key : String)
  (w : World σ)
include hreg

/-- What is read is what the entry stands for, and an object is read unless the host refuses. -/
theorem read_ends : (reg.read decoder key).Ends w fun r t _ => (∃ granted, t = [.access (.get key) granted]) ∧
    (∀ found, r = .ok found → found = (w.store.get? key).map fun j => ofEntry (some j)) ∧
      ((Host.refuse (.get key) w.host).1 = none → (∃ members, w.store.get? key = some (.obj members)) →
        ∃ found, r = .ok found) := by
  unfold Registry.read
  refine Act.ends_bind ((Registry.get_ends hreg key w).mono ?_)
  rintro r t w' - (⟨rfl, rfl⟩ | ⟨f, rfl, rfl, hrefused⟩)
  · dsimp only
    cases w.store.get? key with
    | none =>
      refine Act.ends_pure ⟨⟨true, rfl⟩, ?_, fun _ _ => ⟨none, rfl⟩⟩
      rintro found hfound
      cases hfound
      rfl
    | some j =>
      dsimp only
      cases hdecoded : decoder.ofJson j with
      | ok vars =>
        refine Act.ends_pure ⟨⟨true, rfl⟩, ?_, fun _ _ => ⟨some vars, rfl⟩⟩
        rintro found hfound
        cases hfound
        exact congrArg some (decoder_ofJson hdecoded)
      | error fault =>
        refine Act.ends_fail ⟨⟨true, rfl⟩, (fun _ hfound => nomatch hfound), ?_⟩
        rintro - ⟨members, hmembers⟩
        cases hmembers
        have htable : decoder.ofJson (.obj members) = .ok _ := Decoder.table_ofJson members
        rw [htable] at hdecoded
        cases hdecoded
  · refine ⟨⟨false, rfl⟩, (fun _ hfound => nomatch hfound), ?_⟩
    intro hgranted
    rw [hgranted] at hrefused
    cases hrefused

theorem read_tracks : (reg.read decoder key : Act σ _).Tracks := by
  unfold Registry.read
  refine (Registry.get_tracks hreg key).bind fun found => ?_
  split
  · exact Act.tracks_pure _
  · split
    · exact Act.tracks_pure _
    · exact Act.tracks_fail _

/-- Variables that are computed only are computed from the entry, and nothing is changed. -/
theorem reconcile_ends (d : Desired) : (reconcile reg key d false).Ends w fun r t _ =>
    (∃ granted, t = [.access (.get key) granted]) ∧
      (∀ vars, r = .ok vars → vars = d.over (ofEntry (w.store.get? key))) ∧
        ((Host.refuse (.get key) w.host).1 = none → (∃ members, w.store.get? key = some (.obj members)) →
          ∃ vars, r = .ok vars) := by
  unfold reconcile persisted
  refine Act.ends_bind (Act.ends_mapFault (Act.ends_bind ((read_ends hreg key w).mono ?_)))
  rintro r t w' - ⟨⟨granted, rfl⟩, hfound, hgranted⟩
  cases r with
  | error f =>
    refine ⟨⟨granted, rfl⟩, (fun _ hvars => nomatch hvars), fun h hentry => ?_⟩
    obtain ⟨found, hfound⟩ := hgranted h hentry
    cases hfound
  | ok found =>
    refine Act.ends_pure (Act.ends_pure ⟨⟨granted, rfl⟩, ?_, fun _ _ => ⟨_, rfl⟩⟩)
    rintro vars hvars
    cases hvars
    rw [hfound found rfl]
    cases w.store.get? key <;> rfl

theorem reconcile_tracks (d : Desired) : (reconcile reg key d false : Act σ _).Tracks := by
  unfold reconcile persisted
  refine Act.Tracks.bind (Act.Tracks.mapFault ((read_tracks hreg key).bind fun _ => Act.tracks_pure _)) fun _ => ?_
  exact Act.tracks_pure _

end Registry

end Rollout.Variables
