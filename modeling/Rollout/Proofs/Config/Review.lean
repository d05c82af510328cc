import Mathlib.Data.List.Nodup
import Rollout.Config.Review

/-!
# Rollout.Proofs.Config.Review — what an accepted configuration can be relied on for

The plans of an accepted configuration have names and keys of their own, and none of the keys is the one under which the
database upgrade keeps its progress.

* `Config.Apart`: the plans are told apart by their names and by their keys.
* `Config.apart_of_accept`: they are in an accepted configuration.
* `Config.Apart.plan?_eq`: each plan is found by its name.
-/

namespace Rollout.Config

/-- The plans are told apart by their names and by their keys, and their keys from that of the upgrade. -/
structure Apart (c : Config) : Prop where
  names : (c.plans.map (·.name)).Nodup
  keys : (c.plans.map (·.key)).Nodup
  stateKey : ∀ p ∈ c.plans, p.key ≠ c.upgrade.stateKey

variable {c : Config}

theorem accept_eq_ok (h : c.review.errors = []) : c.accept = .ok c.review := by
  unfold accept
  rw [h]

theorem planErrors_of_accept {review : Review} (h : c.accept = .ok review) : c.planErrors = [] := by
  unfold accept at h
  cases herrors : c.review.errors with
  | nil =>
    have happended : c.memberErrors ++ c.registryErrors ++ c.planErrors = [] := herrors
    exact (List.append_eq_nil_iff.mp happended).2
  | cons e rest =>
    rw [herrors] at h
    cases h

/-- No plan is found fault with in view of the plans before it. -/
theorem planErrorsAt_of_accept {review : Review} (h : c.accept = .ok review) {i : ℕ} (hi : i < c.plans.length) :
    planErrorsAt c.upgrade.stateKey (c.plans.take i) i c.plans[i] = [] := by
  have hall := List.flatMap_eq_nil_iff.mp (planErrors_of_accept h)
  have hmem : (c.plans[i], i) ∈ c.plans.zipIdx := by
    rw [List.mem_zipIdx_iff_getElem?]
    exact List.getElem?_eq_getElem hi
  exact hall _ hmem

/-- What is no error of a plan: its name and its key are those of no plan before it, and its key is not reserved. -/
theorem fresh_of_planErrorsAt {stateKey : String} {before : List Plan} {i : ℕ} {p : Plan}
    (h : planErrorsAt stateKey before i p = []) :
    p.name ∉ before.map (·.name) ∧ p.key ∉ before.map (·.key) ∧ p.key ≠ stateKey := by
  unfold planErrorsAt at h
  simp only [List.append_eq_nil_iff] at h
  obtain ⟨⟨⟨hname, hkey⟩, hreserved⟩, -⟩ := h
  refine ⟨fun hmem => ?_, fun hmem => ?_, fun heq => ?_⟩
  · rw [if_pos (List.contains_iff_mem.mpr hmem)] at hname
    cases hname
  · rw [if_pos (List.contains_iff_mem.mpr hmem)] at hkey
    cases hkey
  · rw [if_pos heq] at hreserved
    cases hreserved

theorem apart_of_accept {review : Review} (h : c.accept = .ok review) : c.Apart := by
  -- A plan stands among those before any later one.
  have hbefore {i j : ℕ} (hi : i < c.plans.length) (hij : i < j) : c.plans[i] ∈ c.plans.take j :=
    List.mem_take_iff_getElem.mpr ⟨i, by omega, rfl⟩
  constructor
  · refine List.pairwise_map.mpr (List.pairwise_iff_getElem.mpr ?_)
    intro i j hi hj hij heq
    have hfresh := (fresh_of_planErrorsAt (planErrorsAt_of_accept h hj)).1
    rw [← heq] at hfresh
    exact hfresh (List.mem_map_of_mem (hbefore hi hij))
  · refine List.pairwise_map.mpr (List.pairwise_iff_getElem.mpr ?_)
    intro i j hi hj hij heq
    have hfresh := (fresh_of_planErrorsAt (planErrorsAt_of_accept h hj)).2.1
    rw [← heq] at hfresh
    exact hfresh (List.mem_map_of_mem (hbefore hi hij))
  · intro p hp
    obtain ⟨i, hi, rfl⟩ := List.getElem_of_mem hp
    exact (fresh_of_planErrorsAt (planErrorsAt_of_accept h hi)).2.2

theorem mem_of_plan? {name : String} {p : Plan} (h : c.plan? name = some p) : p ∈ c.plans ∧ p.name = name :=
  ⟨List.mem_of_find?_eq_some h, by simpa using List.find?_some h⟩

namespace Apart

variable (h : c.Apart) {p q : Plan} (hp : p ∈ c.plans) (hq : q ∈ c.plans)
include h hp hq

theorem eq_of_name (hname : p.name = q.name) : p = q := List.inj_on_of_nodup_map h.names hp hq hname

theorem eq_of_key (hkey : p.key = q.key) : p = q := List.inj_on_of_nodup_map h.keys hp hq hkey

omit hq in
/-- Each plan is found by its name. -/
theorem plan?_eq : c.plan? p.name = some p := by
  cases hfound : c.plan? p.name with
  | none =>
    have hnone := List.find?_eq_none.mp hfound p hp
    simp at hnone
  | some q =>
    obtain ⟨hq, hname⟩ := mem_of_plan? hfound
    rw [h.eq_of_name hq hp hname]

end Apart

end Rollout.Config
