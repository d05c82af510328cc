import Rollout.Table

/-!
# Rollout.Upgrade.Phase — the phases of a procedure

A procedure passes through a fixed sequence of phases, each with a name of its own.  The rank of a phase is its
place in the sequence.

* `PhaseRanks.build`: the table of a sequence; none if it is empty or two phases share a name.
* `PhaseRanks.rank`, `PhaseRanks.parse`, `PhaseRanks.reached`.
-/

namespace Rollout

/-- The phases of a procedure by name, with their places in the sequence. -/
structure PhaseRanks (P : Type) where
  name : P → String
  initial : P
  byName : Table (Nat × P)

namespace PhaseRanks

variable {P : Type}

/-- Enters the phases that follow the first `rank` ones; none when a name is taken. -/
def enter (name : P → String) (rank : Nat) (t : Table (Nat × P)) : List P → Option (Table (Nat × P))
  | [] => some t
  | p :: rest =>
    if t.contains (name p) then none
    else enter name (rank + 1) (t.insert (name p) (rank, p)) rest

/-- The table of a sequence of phases. -/
def build (name : P → String) (sequence : List P) : Option (PhaseRanks P) :=
  match sequence with
  | [] => none
  | first :: _ => (enter name 0 Table.empty sequence).map fun t => ⟨name, first, t⟩

/-- The place of a phase in the sequence. -/
def rank (r : PhaseRanks P) (p : P) : Nat :=
  match r.byName.get? (r.name p) with
  | some (rank, _) => rank
  | none => 0

/-- The phase of a name. -/
def parse (r : PhaseRanks P) (name : String) : Option P := (r.byName.get? name).map Prod.snd

/-- Whether a procedure at `current` has come as far as `target`. -/
def reached (r : PhaseRanks P) (current target : P) : Bool := r.rank target ≤ r.rank current

/-- The number of phases. -/
def length (r : PhaseRanks P) : Nat := r.byName.size

end PhaseRanks

end Rollout
