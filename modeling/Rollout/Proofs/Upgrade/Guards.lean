import Rollout.Proofs.Upgrade.Arrival
import Rollout.Proofs.Upgrade.Ranks

/-!
# Rollout.Proofs.Upgrade.Guards — a procedure goes on after the phase that it has reached

A procedure asks its table of phases before each part whether the phase of this part was reached, and passes it over if
it was.  The table orders the phases as the sequence lists them, so a procedure that stands at any of them does
exactly the parts of those behind it, in their order.

* `PhasedProcedure`: the parts of a procedure, each of which notes its phase or leaves the progress as it was.
* `PhasedProcedure.guarded`, `PhasedProcedure.straight`: a row of parts with their guards, and without.
* `PhasedProcedure.guarded_sequence`: the guards leave just the phases that come after the one reached.
* `PhaseRanks.Orders`, `PhaseRanks.build_orders`: what the table of a sequence tells, and when there is one.
* `DatabaseUpgrade.procedure`, `DatabaseUpgrade.drive_from`: the upgrade of a database is such a procedure.
-/

namespace Rollout

variable {σ S P : Type}

/-- The progress `t'` comes after `t` when the part of a phase is done: the phase is noted, or all is as it was. -/
structure Tracker.Proceeds (t : Tracker P) (target : P) (t' : Tracker P) : Prop where
  ranks : t'.ranks = t.ranks
  current : t'.current = target ∨ t'.current = t.current

/-- The parts of a procedure, one for each phase, and what tracks its progress. -/
structure PhasedProcedure (σ S P : Type) where
  tracker : S → Tracker P
  part : P → S → Act σ S
  proceeds : ∀ target s, (part target s).Returns fun s' => (tracker s).Proceeds target (tracker s')

namespace PhasedProcedure

/-- The parts of a row of phases, each passed over if its phase was reached. -/
def guarded (x : PhasedProcedure σ S P) (targets : List P) (s : S) : Act σ S :=
  targets.foldlM (fun s target => if (x.tracker s).reached target then return s else x.part target s) s

/-- The parts of a row of phases, one after another. -/
def straight (x : PhasedProcedure σ S P) (targets : List P) (s : S) : Act σ S :=
  targets.foldlM (fun s target => x.part target s) s

variable {x : PhasedProcedure σ S P} {targets : List P} {s : S}

/-- Parts whose phases were reached are passed over. -/
theorem guarded_of_reached (h : ∀ p ∈ targets, (x.tracker s).reached p = true) :
    x.guarded targets s = pure s := by
  induction targets with
  | nil => rfl
  | cons target targets ih =>
    obtain ⟨hreached, hrest⟩ := List.forall_mem_cons.mp h
    unfold guarded
    rw [List.foldlM_cons, if_pos hreached, pure_bind]
    exact ih hrest

/-- In a row in which no phase has reached a later one, no part is passed over. -/
theorem guarded_of_not_reached {r : PhaseRanks P} (hr : (x.tracker s).ranks = r)
    (hrises : targets.Pairwise fun p q => r.reached p q = false)
    (h : ∀ p ∈ targets, r.reached (x.tracker s).current p = false) : x.guarded targets s = x.straight targets s := by
  induction targets generalizing s with
  | nil => rfl
  | cons target targets ih =>
    obtain ⟨hahead, hrest⟩ := List.pairwise_cons.mp hrises
    obtain ⟨hnew, hnews⟩ := List.forall_mem_cons.mp h
    have hguard : ¬ (x.tracker s).reached target = true := by
      rw [Tracker.reached, hr, hnew]
      decide
    unfold guarded straight
    rw [List.foldlM_cons, List.foldlM_cons, if_neg hguard]
    -- Wherever the part leaves the progress, no phase behind its own was reached.
    refine (x.proceeds target s).bind_congr fun s' hs' => ih (hs'.ranks.trans hr) hrest fun p hp => ?_
    rcases hs'.current with hcurrent | hcurrent
    · rw [hcurrent]
      exact hahead p hp
    · rw [hcurrent]
      exact hnews p hp

/-- A procedure that stands at a phase does the parts of the phases after it, in their order. -/
theorem guarded_sequence {name : P → String} {sequence : List P} {r : PhaseRanks P}
    (h : PhaseRanks.build name sequence = some r) (hr : (x.tracker s).ranks = r) {i : Nat}
    (hi : sequence[i]? = some (x.tracker s).current) :
    x.guarded sequence s = x.straight (sequence.drop (i + 1)) s := by
  have hbefore : ∀ p ∈ sequence.take (i + 1), (x.tracker s).reached p = true := by
    intro p hp
    obtain ⟨j, hj⟩ := List.mem_iff_getElem?.mp hp
    rw [List.getElem?_take] at hj
    split at hj
    · rename_i hlt
      rw [Tracker.reached, hr]
      exact (PhaseRanks.reached_iff_of_build h hi hj).mpr (Nat.lt_succ_iff.mp hlt)
    · cases hj
  have hafter : ∀ p ∈ sequence.drop (i + 1), r.reached (x.tracker s).current p = false := by
    intro p hp
    obtain ⟨j, hj⟩ := List.mem_iff_getElem?.mp hp
    rw [List.getElem?_drop] at hj
    rw [Bool.eq_false_iff, Ne, PhaseRanks.reached_iff_of_build h hi hj]
    omega
  have hrises : (sequence.drop (i + 1)).Pairwise fun p q => r.reached p q = false :=
    (PhaseRanks.listed_of_build h).sublist (List.drop_sublist _ _)
  calc x.guarded sequence s
      = x.guarded (sequence.take (i + 1) ++ sequence.drop (i + 1)) s := by rw [List.take_append_drop]
    _ = x.guarded (sequence.take (i + 1)) s >>= x.guarded (sequence.drop (i + 1)) := List.foldlM_append
    _ = x.guarded (sequence.drop (i + 1)) s := by rw [guarded_of_reached hbefore, pure_bind]
    _ = x.straight (sequence.drop (i + 1)) s := guarded_of_not_reached hr hrises hafter

end PhasedProcedure

/-! ## What a table tells -/

namespace PhaseRanks

/-- What the table of a sequence of phases tells of them. -/
structure Orders (r : PhaseRanks P) (name : P → String) (sequence : List P) : Prop where
  /-- The initial phase is the first one. -/
  initial : sequence[0]? = some r.initial
  rank_initial : r.rank r.initial = 0
  /-- The rank of a phase is its place. -/
  rank : ∀ (i : Nat) p, sequence[i]? = some p → r.rank p = i
  /-- A phase is read from its name. -/
  parse : ∀ (i : Nat) p, sequence[i]? = some p → r.parse (name p) = some p
  /-- Nothing else is read. -/
  nameless : ∀ s, (∀ p ∈ sequence, name p ≠ s) → r.parse s = none
  length : r.length = sequence.length
  reached : ∀ (i j : Nat) p q, sequence[i]? = some p → sequence[j]? = some q → (r.reached p q = true ↔ j ≤ i)
  /-- To have been reached is a total order of the phases. -/
  linear : IsLinearOrder {p // p ∈ sequence} fun p q => r.reached q p = true
  /-- The sequence lists the phases in this order. -/
  listed : sequence.Pairwise fun p q => r.reached p q = false
  /-- A procedure that stands at a phase does the parts of those listed after it, and no other. -/
  guards : ∀ (σ S : Type) (x : PhasedProcedure σ S P) (s : S) (i : Nat), (x.tracker s).ranks = r →
    sequence[i]? = some (x.tracker s).current → x.guarded sequence s = x.straight (sequence.drop (i + 1)) s

/-- There is a table unless the sequence is empty or two places have one name, and it orders the phases as listed. -/
theorem build_orders (name : P → String) (sequence : List P) :
    (build name sequence = none ↔ sequence = [] ∨ Clash name sequence) ∧
      ∀ r, build name sequence = some r → r.Orders name sequence := by
  refine ⟨build_eq_none_iff, fun r h => ?_⟩
  have hinitial := initial_of_build h
  constructor
  case initial => exact hinitial
  case rank_initial => exact rank_of_build h hinitial
  case rank => exact fun i p => rank_of_build h
  case parse => exact fun i p hp => (parse_of_build h).mpr ⟨List.mem_of_getElem? hp, rfl⟩
  case nameless => exact fun s => (parse_eq_none_of_build h).mpr
  case length => exact length_of_build h
  case reached => exact fun i j p q => reached_iff_of_build h
  case linear => exact linear_of_build h
  case listed => exact listed_of_build h
  case guards => exact fun σ S x s i hr hi => PhasedProcedure.guarded_sequence h hr hi

theorem build_orders_database : build DatabasePhase.name DatabasePhase.sequence = some DatabaseUpgrade.standard.ranks ∧
    DatabaseUpgrade.standard.ranks.Orders DatabasePhase.name DatabasePhase.sequence :=
  have hbuild : build DatabasePhase.name DatabasePhase.sequence = some DatabaseUpgrade.standard.ranks :=
    DatabaseUpgrade.ranks_standard
  ⟨hbuild, (build_orders _ _).2 _ hbuild⟩

end PhaseRanks

/-! ## The upgrade of a database -/

variable [Host σ]

theorem Tracker.advance_proceeds (t : Tracker P) (phase : P) (b : Baseline) :
    (t.advance phase b : Act σ (Tracker P)).Returns fun t' => t.Proceeds phase t' := by
  unfold advance
  split
  · exact Act.returns_fail _
  · exact (Act.returns _).bind fun _ _ => (Act.returns _).bind fun _ _ => Act.returns_pure ⟨rfl, .inl rfl⟩

namespace DatabaseUpgrade

namespace Stage

/-- Whatever stage an action gives, its progress comes after that of `s` when the part of a phase is done. -/
def Proceeds (s : Stage) (k : DatabasePhase) (x : Act σ Stage) : Prop :=
  x.Returns fun s' => s.tracker.Proceeds k s'.tracker

variable {s : Stage} {k : DatabasePhase} {α : Type} {x : Act σ Stage}

omit [Host σ] in
theorem proceeds_same : s.Proceeds k (pure s : Act σ Stage) := Act.returns_pure ⟨rfl, .inr rfl⟩

omit [Host σ] in
theorem proceeds_fail (f : Fault) : s.Proceeds k (Act.fail f : Act σ Stage) := Act.returns_fail f

omit [Host σ] in
theorem proceeds_bind {y : Act σ α} {f : α → Act σ Stage} (h : ∀ a, s.Proceeds k (f a)) : s.Proceeds k (y >>= f) :=
  (Act.returns y).bind fun a _ => h a

omit [Host σ] in
theorem proceeds_through (h : s.Proceeds k x) : s.Proceeds k (s.through k x) := by
  unfold through
  split
  · exact proceeds_same
  · exact h

theorem proceeds_advance (b : Baseline) : s.Proceeds k ({ s with baseline := b }.advance k : Act σ Stage) :=
  (Tracker.advance_proceeds s.tracker k b).bind fun _ h => Act.returns_pure h

end Stage

open Stage

variable (u : DatabaseUpgrade)

theorem actionPhase_proceeds (s : Stage) (k : DatabasePhase) (line action : String) :
    s.Proceeds k (s.through k do
      Act.publish line
      u.leaderAction k action
      s.advance k : Act σ Stage) :=
  proceeds_through (proceeds_bind fun _ => proceeds_bind fun _ => proceeds_advance s.baseline)

/-- The part of a phase notes it, or leaves the progress as it was. -/
theorem phase_proceeds (k : DatabasePhase) (s : Stage) : s.Proceeds k (u.phase k s : Act σ Stage) := by
  cases k with
  | start => exact proceeds_same
  | baselineRecorded =>
    refine proceeds_through (proceeds_bind fun found => ?_)
    cases found with
    | none => exact proceeds_fail _
    | some app => exact proceeds_advance _
  | scaledUp =>
    refine proceeds_through ?_
    cases s.baseline.scale with
    | none => exact proceeds_fail _
    | some before =>
      refine proceeds_bind fun _ => proceeds_bind fun scaled => ?_
      cases scaled with
      | error e => exact proceeds_fail _
      | ok _ => exact proceeds_advance s.baseline
  | precheckDone => exact u.actionPhase_proceeds s _ _ _
  | primaryUnitUpgraded =>
    refine proceeds_through (proceeds_bind fun found => ?_)
    cases found.bind Application.highest? with
    | none => exact proceeds_fail _
    | some unit =>
      refine proceeds_bind fun _ => proceeds_bind fun refreshed => ?_
      cases refreshed with
      | error e => exact proceeds_fail _
      | ok _ =>
        refine proceeds_bind fun waited => ?_
        cases waited with
        | error e => exact proceeds_fail _
        | ok _ => exact proceeds_advance s.baseline
  | upgradeResumed => exact u.actionPhase_proceeds s _ _ _
  | unitsSettled =>
    refine proceeds_through (proceeds_bind fun _ => proceeds_bind fun waited => ?_)
    cases waited with
    | error e => exact proceeds_fail _
    | ok _ => exact proceeds_advance s.baseline
  | scaledBack =>
    refine proceeds_through ?_
    cases s.baseline.scale with
    | none => exact proceeds_bind fun _ => proceeds_same
    | some before =>
      refine proceeds_bind fun found => ?_
      dsimp only
      split
      · exact proceeds_bind fun _ => proceeds_same
      · refine proceeds_bind fun _ => proceeds_bind fun scaled => ?_
        cases scaled with
        | error e => exact proceeds_same
        | ok _ => exact proceeds_advance s.baseline

/-- The parts of the upgrade of a database. -/
def procedure : PhasedProcedure σ Stage DatabasePhase := ⟨Stage.tracker, u.phase, fun k s => u.phase_proceeds k s⟩

/-- Each part of the upgrade begins with its guard. -/
theorem guard_phase (k : DatabasePhase) (s : Stage) :
    (if s.tracker.reached k then pure s else u.phase k s : Act σ Stage) = u.phase k s := by
  by_cases h : s.tracker.reached k = true
  · rw [if_pos h]
    cases k with
    | start => rfl
    | _ => exact (if_pos h).symm
  · rw [if_neg h]

/-- The upgrade goes through its parts in the order of the phases. -/
theorem drive_eq_guarded (s : Stage) :
    (u.drive s : Act σ Stage) = u.procedure.guarded DatabasePhase.sequence s := by
  have hguarded : u.procedure.guarded DatabasePhase.sequence s =
      (u.procedure.straight DatabasePhase.sequence s : Act σ Stage) := by
    unfold PhasedProcedure.guarded PhasedProcedure.straight
    congr
    funext s k
    exact u.guard_phase k s
  rw [hguarded]
  simp only [PhasedProcedure.straight, procedure, DatabasePhase.sequence, List.foldlM_cons, List.foldlM_nil, bind_pure]
  exact (pure_bind s _).symm

/-- An upgrade whose progress stands at a phase is the parts of the phases after it, in their order. -/
theorem drive_from (hr : DatabasePhase.ranks? = some u.ranks) {s : Stage} (hs : s.tracker.ranks = u.ranks) :
    (u.drive s : Act σ Stage) = u.procedure.straight s.tracker.current.ahead s := by
  rw [drive_eq_guarded, DatabasePhase.ahead_eq_drop]
  exact PhasedProcedure.guarded_sequence hr hs (DatabasePhase.getElem?_place _)

end DatabaseUpgrade

end Rollout
