import Mathlib.Data.List.Basic
import Mathlib.Order.Defs.Unbundled
import Rollout.Proofs.Table
import Rollout.Upgrade.Phase

/-!
# Rollout.Proofs.Upgrade.Ranks — the table of a sequence of phases

The table in which the phases of a procedure are entered finds under each name the phase of that name with its place in
the sequence, and under any other text nothing.  There is a table unless two places have one name, or there is none.

* `PhaseRanks.isSome_enter`, `PhaseRanks.get?_enter`: whether some phases more can be entered, and what is found then.
* `PhaseRanks.Clash`, `PhaseRanks.build_eq_none_iff`: the sequences without a table.
* `PhaseRanks.get?_of_build`, `PhaseRanks.parse_of_build`: what is found when all are.
* `PhaseRanks.rank_of_build`, `PhaseRanks.reached_iff_of_build`: the places of the phases, and their order.
-/

namespace Rollout.PhaseRanks

variable {P : Type} {name : P → String} {sequence : List P} {r : PhaseRanks P}

/-! ## What can be entered -/

/-- Phases can be entered if their names are not taken and differ. -/
theorem isSome_enter {rank : Nat} {t : Table (Nat × P)} {phases : List P} :
    (enter name rank t phases).isSome = true ↔
      (∀ p ∈ phases, t.get? (name p) = none) ∧ (phases.map name).Nodup := by
  induction phases generalizing rank t with
  | nil => simp [enter]
  | cons q phases ih =>
    have hafter (p : P) : (t.insert (name q) (rank, q)).get? (name p) = none ↔
        name p ≠ name q ∧ t.get? (name p) = none := by
      rw [Table.get?_insert]
      by_cases hp : name p = name q <;> simp [hp]
    unfold enter
    by_cases htaken : t.contains (name q) = true
    · have hq : t.get? (name q) ≠ none := Option.isSome_iff_ne_none.mp htaken
      rw [if_pos htaken]
      constructor
      · intro h
        cases h
      · rintro ⟨hfree, -⟩
        exact absurd (hfree q List.mem_cons_self) hq
    · have hq : t.get? (name q) = none := by simpa [Table.contains] using htaken
      rw [if_neg htaken, ih, List.map_cons, List.nodup_cons, List.forall_mem_cons]
      simp only [hafter, List.mem_map, not_exists, not_and]
      constructor
      · rintro ⟨hfree, hdiffer⟩
        exact ⟨⟨hq, fun p hp => (hfree p hp).2⟩, fun p hp => (hfree p hp).1, hdiffer⟩
      · rintro ⟨⟨-, hfree⟩, hnew, hdiffer⟩
        exact ⟨fun p hp => ⟨hnew p hp, hfree p hp⟩, hdiffer⟩

/-- Two places of a sequence have phases of one name. -/
def Clash (name : P → String) (sequence : List P) : Prop :=
  ∃ (i j : Nat) (p q : P), i < j ∧ sequence[i]? = some p ∧ sequence[j]? = some q ∧ name p = name q

theorem nodup_iff_not_clash : (sequence.map name).Nodup ↔ ¬ Clash name sequence := by
  unfold List.Nodup Clash
  rw [List.pairwise_map, List.pairwise_iff_getElem]
  constructor
  · rintro hdiffer ⟨i, j, p, q, hlt, hp, hq, heq⟩
    obtain ⟨hi, rfl⟩ := List.getElem?_eq_some_iff.mp hp
    obtain ⟨hj, rfl⟩ := List.getElem?_eq_some_iff.mp hq
    exact hdiffer i j hi hj hlt heq
  · intro hno i j hi hj hlt heq
    exact hno ⟨i, j, _, _, hlt, List.getElem?_eq_getElem hi, List.getElem?_eq_getElem hj, heq⟩

/-- There is no table of an empty sequence, and none if two places have one name. -/
theorem build_eq_none_iff : build name sequence = none ↔ sequence = [] ∨ Clash name sequence := by
  cases sequence with
  | nil => simp [build]
  | cons first rest =>
    have hentered : (enter name 0 Table.empty (first :: rest)).isSome = true ↔ ¬ Clash name (first :: rest) := by
      rw [isSome_enter, nodup_iff_not_clash]
      simp
    simp only [build, Option.map_eq_none_iff, reduceCtorEq, false_or]
    rw [← Option.not_isSome_iff_eq_none, hentered, not_not]

/-! ## What is found -/

theorem name_of_build (h : build name sequence = some r) : r.name = name := by
  unfold build at h
  split at h
  · cases h
  · obtain ⟨t, -, rfl⟩ := Option.map_eq_some_iff.mp h
    rfl

/-- Phases are entered at the places that follow, and what was entered before stays. -/
theorem get?_enter {rank : Nat} {t t' : Table (Nat × P)} {phases : List P} (h : enter name rank t phases = some t')
    {s : String} {i : Nat} {p : P} :
    t'.get? s = some (i, p) ↔ t.get? s = some (i, p) ∨ ∃ m, i = rank + m ∧ phases[m]? = some p ∧ name p = s := by
  induction phases generalizing rank t with
  | nil =>
    cases h
    simp
  | cons q phases ih =>
    unfold enter at h
    split at h
    · cases h
    rename_i hfree
    have hfree : t.get? (name q) = none := by simpa [Table.contains] using hfree
    rw [ih h, Table.get?_insert]
    have hplaces : (∃ m, i = rank + m ∧ (q :: phases)[m]? = some p ∧ name p = s) ↔
        (i = rank ∧ q = p ∧ name p = s) ∨ ∃ m, i = rank + 1 + m ∧ phases[m]? = some p ∧ name p = s := by
      constructor
      · rintro ⟨m, rfl, hm, hs⟩
        cases m with
        | zero => exact .inl ⟨rfl, Option.some.inj hm, hs⟩
        | succ m => exact .inr ⟨m, by omega, hm, hs⟩
      · rintro (⟨rfl, rfl, hs⟩ | ⟨m, rfl, hm, hs⟩)
        · exact ⟨0, rfl, rfl, hs⟩
        · exact ⟨m + 1, by omega, hm, hs⟩
    rw [hplaces, ← or_assoc]
    refine or_congr_left ?_
    by_cases hs : s = name q
    · subst hs
      rw [if_pos rfl, hfree]
      constructor
      · intro heq
        cases heq
        exact .inr ⟨rfl, rfl, rfl⟩
      · rintro (heq | ⟨rfl, rfl, -⟩)
        · cases heq
        · rfl
    · rw [if_neg hs]
      refine ⟨.inl, fun h => h.resolve_right ?_⟩
      rintro ⟨-, rfl, rfl⟩
      exact hs rfl

/-- Each phase that is entered has a name of its own in the table. -/
theorem size_enter {rank : Nat} {t t' : Table (Nat × P)} {phases : List P} (h : enter name rank t phases = some t') :
    t'.size = t.size + phases.length := by
  induction phases generalizing rank t with
  | nil =>
    cases h
    rfl
  | cons q phases ih =>
    unfold enter at h
    split at h
    · cases h
    · rename_i hfree
      have hfree : t.get? (name q) = none := by simpa [Table.contains] using hfree
      rw [ih h, Table.size_insert hfree, List.length_cons]
      omega

theorem length_of_build (h : build name sequence = some r) : r.length = sequence.length := by
  unfold build at h
  split at h
  · cases h
  · obtain ⟨t, ht, rfl⟩ := Option.map_eq_some_iff.mp h
    exact (size_enter ht).trans (Nat.zero_add _)

theorem initial_of_build (h : build name sequence = some r) : sequence[0]? = some r.initial := by
  unfold build at h
  split at h
  · cases h
  · obtain ⟨t, -, rfl⟩ := Option.map_eq_some_iff.mp h
    rfl

/-- Under a name is found the phase of that name, with its place in the sequence. -/
theorem get?_of_build (h : build name sequence = some r) {s : String} {i : Nat} {p : P} :
    r.byName.get? s = some (i, p) ↔ sequence[i]? = some p ∧ name p = s := by
  unfold build at h
  split at h
  · cases h
  · obtain ⟨t, ht, rfl⟩ := Option.map_eq_some_iff.mp h
    simp [get?_enter ht]

/-- A text is read as the phase that it names. -/
theorem parse_of_build (h : build name sequence = some r) {s : String} {p : P} :
    r.parse s = some p ↔ p ∈ sequence ∧ name p = s := by
  rw [parse, Option.map_eq_some_iff, List.mem_iff_getElem?]
  constructor
  · rintro ⟨⟨i, p⟩, hget, rfl⟩
    obtain ⟨hi, hs⟩ := (get?_of_build h).mp hget
    exact ⟨⟨i, hi⟩, hs⟩
  · rintro ⟨⟨i, hi⟩, hs⟩
    exact ⟨(i, p), (get?_of_build h).mpr ⟨hi, hs⟩, rfl⟩

/-- Two phases of the sequence do not share a name. -/
theorem eq_of_name (h : build name sequence = some r) {p q : P} (hp : p ∈ sequence) (hq : q ∈ sequence)
    (hname : name p = name q) : p = q := by
  have hread : r.parse (name p) = some p := (parse_of_build h).mpr ⟨hp, rfl⟩
  have hread' : r.parse (name p) = some q := (parse_of_build h).mpr ⟨hq, hname.symm⟩
  exact Option.some.inj (hread.symm.trans hread')

/-- A text that names no phase is not read. -/
theorem parse_eq_none_of_build (h : build name sequence = some r) {s : String} :
    r.parse s = none ↔ ∀ p ∈ sequence, name p ≠ s := by
  rw [Option.eq_none_iff_forall_ne_some]
  simp only [ne_eq, parse_of_build h, not_and]

/-! ## The order -/

/-- The rank of a phase is its place. -/
theorem rank_of_build (h : build name sequence = some r) {i : Nat} {p : P} (hp : sequence[i]? = some p) :
    r.rank p = i := by
  have hfound : r.byName.get? (r.name p) = some (i, p) := by
    rw [name_of_build h]
    exact (get?_of_build h).mpr ⟨hp, rfl⟩
  rw [rank, hfound]

/-- A phase has come as far as those that do not stand behind it. -/
theorem reached_iff_of_build (h : build name sequence = some r) {i j : Nat} {p q : P} (hp : sequence[i]? = some p)
    (hq : sequence[j]? = some q) : r.reached p q = true ↔ j ≤ i := by
  rw [reached, rank_of_build h hp, rank_of_build h hq, decide_eq_true_iff]

/-- No phase has come as far as one that stands behind it. -/
theorem listed_of_build (h : build name sequence = some r) : sequence.Pairwise fun p q => r.reached p q = false := by
  rw [List.pairwise_iff_getElem]
  intro i j hi hj hlt
  rw [Bool.eq_false_iff, Ne, reached_iff_of_build h (List.getElem?_eq_getElem hi) (List.getElem?_eq_getElem hj)]
  exact Nat.not_le.mpr hlt

/-- The phases of the sequence are ordered by what was reached from what, of any two the one or the other first. -/
theorem linear_of_build (h : build name sequence = some r) :
    IsLinearOrder {p // p ∈ sequence} fun p q => r.reached q p = true where
  refl p := decide_eq_true (Nat.le_refl _)
  trans p q s hpq hqs := decide_eq_true (Nat.le_trans (of_decide_eq_true hpq) (of_decide_eq_true hqs))
  antisymm := by
    rintro ⟨p, hp⟩ ⟨q, hq⟩ hpq hqp
    obtain ⟨i, hi⟩ := List.mem_iff_getElem?.mp hp
    obtain ⟨j, hj⟩ := List.mem_iff_getElem?.mp hq
    have hij : i = j :=
      Nat.le_antisymm ((reached_iff_of_build h hj hi).mp hpq) ((reached_iff_of_build h hi hj).mp hqp)
    subst hij
    exact Subtype.ext (Option.some.inj (hi.symm.trans hj))
  total p q := by
    rcases Nat.le_total (r.rank p) (r.rank q) with hle | hle
    · exact .inl (decide_eq_true hle)
    · exact .inr (decide_eq_true hle)

end Rollout.PhaseRanks
