import Rollout.Proofs.Table
import Rollout.Proofs.Within
import Rollout.Variables.Reconcile

/-!
# Rollout.Proofs.Registry.Keys — documents are handled one key at a time

Wherever documents are kept, an access to one of them is noted under its key, and in the shared store it leaves alone
the documents under all other keys.  To look a document up changes no document and no file at all.

* `Registry.get_within`: looking a document up.
* `Registry.put_within`, `Registry.delete_within`: storing and removing one.
* `Variables.intended_within`, `Variables.persist_within`: the variables of a plan.
-/

namespace Rollout

variable {σ α : Type} [Host σ] {E : Event → Prop}

/-! ## The shared store -/

namespace Store

theorem access_within (a : Access) {x : Act σ α} (h : Within E x) : Within E (access a x) where
  becomes w := by
    have hhost := w.becomes_host (E := E) (Host.refuse a w.host).2
    unfold access
    dsimp only
    cases (Host.refuse a w.host).1 with
    | some f => exact hhost
    | none => exact hhost.trans (h.becomes _)
  blind w past store hagree := by
    have hhost : (w.amid past store).host = w.host := rfl
    unfold access
    rw [hhost]
    dsimp only
    cases (Host.refuse a w.host).1 with
    | some f => exact ⟨store, rfl, hagree⟩
    | none => exact h.blind { w with host := (Host.refuse a w.host).2 } past store hagree

theorem get_within {key : String} (h : E (.access (.get key) true)) : Within E (get key : Act σ (Option Json)) :=
  access_within _ (within_asks fun _ _ _ hagree => hagree _ h)

theorem put_within {key : String} {value : Json} (h : E (.access (.put key value) true)) :
    Within E (put key value : Act σ Unit) := by
  refine access_within _ ⟨fun w => ?_, fun w past store hagree => ?_⟩
  · refine ⟨⟨[], rfl, by simp⟩, fun key' hkey' => ?_, fun _ => rfl, Nat.le_refl _, rfl, rfl, rfl, rfl, rfl, rfl⟩
    have hne : key ≠ key' := hkey' _ h rfl
    exact Table.get?_insert_of_ne _ hne.symm value
  · refine ⟨store.insert key value, rfl, fun a ha => ?_⟩
    by_cases hkey : a.key = key
    · rw [hkey, Table.get?_insert_self, Table.get?_insert_self]
    · rw [Table.get?_insert_of_ne _ hkey, Table.get?_insert_of_ne _ hkey]
      exact hagree a ha

theorem delete_within {key : String} (h : E (.access (.delete key) true)) :
    Within E (delete key : Act σ Unit) := by
  refine access_within _ ⟨fun w => ?_, fun w past store hagree => ?_⟩
  · by_cases hpresent : w.store.contains key
    · rw [if_pos hpresent]
      refine ⟨⟨[], rfl, by simp⟩, fun key' hkey' => ?_, fun _ => rfl, Nat.le_refl _, rfl, rfl, rfl, rfl, rfl, rfl⟩
      have hne : key ≠ key' := hkey' _ h rfl
      exact Table.get?_erase_of_ne _ hne.symm
    · rw [if_neg hpresent]
      exact .refl w
  · have hstore : (w.amid past store).store.contains key = w.store.contains key := by
      have hheld : store.get? key = w.store.get? key := hagree _ h
      unfold Table.contains
      rw [← hheld]
      rfl
    rw [hstore]
    by_cases hpresent : w.store.contains key
    · rw [if_pos hpresent, if_pos hpresent]
      refine ⟨store.erase key, rfl, fun a ha => ?_⟩
      by_cases hkey : a.key = key
      · rw [hkey, Table.get?_erase_self, Table.get?_erase_self]
      · rw [Table.get?_erase_of_ne _ hkey, Table.get?_erase_of_ne _ hkey]
        exact hagree a ha
    · rw [if_neg hpresent, if_neg hpresent]
      exact ⟨store, rfl, hagree⟩

end Store

/-! ## Directories -/

namespace Directory

omit [Host σ] in
theorem orFail_within (what : String) {x : Act σ (Except OsFault α)} (h : Within E x) : Within E (orFail what x) := by
  unfold orFail
  refine h.bind fun r => ?_
  split
  · exact within_pure _
  · exact within_fail _

theorem get_within (h : ∀ p, E (.file (.read p))) (dir : Path) (key : String) :
    Within E (get dir key : Act σ (Option Json)) := by
  unfold get
  refine (within_ofExcept _).bind fun path => (Disk.contains_within path).bind fun present => ?_
  split
  · refine (orFail_within _ (Disk.read_within (h path))).bind fun text => ?_
    split
    · exact within_pure _
    · exact within_fail _
  · exact within_pure _

variable (h : ∀ a, E (.file a)) (dir : Path) (key : String)
include h

theorem put_within (value : Json) : Within E (put dir key value : Act σ Unit) := by
  have ensure_within : Within E (ensure dir : Act σ Unit) := by
    unfold ensure
    refine (Disk.contains_within dir).bind fun present => ?_
    split
    · exact within_pure _
    · exact orFail_within _ (Disk.makeDirs_within h dir)
  have step_within (what : String) (a : FileAction) : Within E (orFail what (Disk.step a) : Act σ Unit) :=
    orFail_within what (Disk.step_within (h a))
  unfold put
  refine (within_ofExcept _).bind fun path => ensure_within.bind fun _ => ?_
  refine (step_within _ _).bind fun _ => ?_
  refine (orFail_within _ (Disk.fillBehind_within (h _))).bind fun _ => ?_
  exact (step_within _ _).bind fun _ => step_within _ _

theorem delete_within : Within E (delete dir key : Act σ Unit) := by
  unfold delete
  refine (within_ofExcept _).bind fun path => (Disk.contains_within path).bind fun present => ?_
  split
  · exact orFail_within _ (Disk.step_within (h _))
  · exact within_fail _

end Directory

/-! ## Servers -/

namespace Server

theorem send_within {r : Http.Request} (h : E (.request r)) : Within E (send r : Act σ Http.Response) := by
  unfold send
  split
  · exact within_fail _
  · refine (within_exchange h).bind fun response => ?_
    split
    · split
      · exact within_pure _
      · exact within_fail _
    · exact within_fail _

theorem get_within (h : ∀ r : Http.Request, r.method = .get → E (.request r)) (s : Server) (key : String) :
    Within E (s.get key : Act σ (Option Json)) := by
  have fetch_within (url : Url) : Within E (fetch url : Act σ (Option Json)) := by
    unfold fetch
    refine (send_within (h _ rfl)).bind fun response => ?_
    split
    · exact within_pure _
    · split
      · exact within_fail _
      · split
        · exact within_pure _
        · exact within_fail _
  unfold get
  refine (within_ofExcept _).bind fun url => (fetch_within url).bind fun found => ?_
  split
  · exact (within_ofExcept _).bind fun _ => within_pure _
  · exact within_pure _

variable (h : ∀ r, E (.request r)) (s : Server) (key : String)
include h

theorem put_within (value : Json) : Within E (s.put key value : Act σ Unit) := by
  unfold put upload
  refine (within_ofExcept _).bind fun url => (send_within (h _)).bind fun response => ?_
  split
  · exact within_pure _
  · exact within_fail _

theorem delete_within : Within E (s.delete key : Act σ Unit) := by
  unfold delete
  refine (within_ofExcept _).bind fun url => (send_within (h _)).bind fun response => ?_
  split
  · exact within_fail _
  · split
    · exact within_pure _
    · exact within_fail _

end Server

/-! ## Registries of any kind -/

namespace Registry

omit [Host σ] in
theorem noted_within {a : Access} {x : Act σ α} (ha : ∀ granted, E (.access a granted)) (h : Within E x) :
    Within E (noted a x) where
  becomes w := by
    have hx := h.becomes w
    unfold noted
    generalize x w = y at hx
    obtain ⟨_ | r, w'⟩ := y
    · exact hx.trans (w'.becomes_note (ha false))
    · exact hx.trans (w'.becomes_note (ha true))
  blind w past store hagree := by
    obtain ⟨store', hx, hagree'⟩ := h.blind w past store hagree
    unfold noted
    rw [hx]
    generalize x w = y at hagree'
    obtain ⟨_ | r, w'⟩ := y <;> exact ⟨store', rfl, hagree'⟩

variable (r : Registry) (key : String)

theorem get_within : Within (Event.Gets key) (r.get key : Act σ (Option Json)) := by
  unfold get
  refine noted_within (fun _ => rfl) ?_
  cases r with
  | shared endpoint => exact Store.get_within rfl
  | directory path => exact Directory.get_within (fun _ => rfl) path key
  | server s => exact s.get_within (fun _ hget => hget) key

theorem put_within (value : Json) : Within (Event.At key) (r.put key value : Act σ Unit) := by
  unfold put
  refine noted_within (fun _ => rfl) ?_
  cases r with
  | shared endpoint => exact Store.put_within rfl
  | directory path => exact Directory.put_within (fun _ => trivial) path key value
  | server s => exact s.put_within (fun _ => trivial) key value

theorem delete_within : Within (Event.At key) (r.delete key : Act σ Unit) := by
  unfold delete
  refine noted_within (fun _ => rfl) ?_
  cases r with
  | shared endpoint => exact Store.delete_within rfl
  | directory path => exact Directory.delete_within (fun _ => trivial) path key
  | server s => exact s.delete_within (fun _ => trivial) key

theorem read_within (d : Decoder α) : Within (Event.Gets key) (r.read d key : Act σ (Option α)) := by
  unfold read
  refine (r.get_within key).bind fun found => ?_
  split
  · exact within_pure _
  · split
    · exact within_pure _
    · exact within_fail _

theorem update_within (value : Json) : Within (Event.At key) (r.update key value : Act σ Unit) :=
  r.put_within key value.sort

theorem deleteIfPresent_within : Within (Event.At key) (r.deleteIfPresent key : Act σ Bool) := by
  unfold deleteIfPresent
  refine (r.delete_within key).attempt.bind fun deleted => ?_
  split
  · exact within_pure _
  · exact within_pure _
  · exact within_fail _

end Registry

namespace Variables

/-- What variables ought to be is found by looking at those that are persisted. -/
theorem intended_within (r : Registry) (key : String) (d : Desired) :
    Within (Event.Gets key) (reconcile r key d false : Act σ Variables) := by
  have persisted_within : Within (Event.Gets key) (persisted r key : Act σ Variables) :=
    (r.read_within key decoder).bind fun _ => within_pure _
  exact persisted_within.mapFault.bind fun _ => within_pure _

theorem persist_within (r : Registry) (key : String) (vars : Variables) :
    Within (Event.At key) (persist r key vars : Act σ Unit) := r.update_within key _

end Variables

end Rollout
