import Rollout.Registry.Basic
import Rollout.Upgrade.Phase

/-!
# Rollout.Upgrade.Tracker — how far a procedure has come

The progress of a procedure is a document in the registry: the phase it has reached and what was found at its start.
It is written after each phase, so that a procedure that was interrupted goes on where it stopped.

* `Progress.decoder`: reads the document; a document of any other shape counts as no progress.
* `Tracker.load`, `Tracker.advance`, `Tracker.clear`: the phases reached never go back but to the start.
-/

namespace Rollout

/-- What was found at the start of an upgrade. -/
structure Baseline where
  revision : Option Nat
  scale : Option Nat
deriving DecidableEq, Repr, Inhabited

namespace Baseline

/-- Nothing was found yet. -/
def unknown : Baseline := ⟨none, none⟩

def entries (b : Baseline) : List (String × Json) :=
  [("original_revision", .ofOption .nat b.revision), ("original_scale", .ofOption .nat b.scale)]

def toJson (b : Baseline) : Json := .obj b.entries

def fields : Fields Baseline :=
  Baseline.mk <$> Fields.optional "original_revision" Decoder.u64
    <*> Fields.optional "original_scale" Decoder.u32

def decoder : Decoder Baseline := Fields.closed "DatabaseUpgradeData" fields

end Baseline

/-- The phase reached, what was found at the start, and who wrote it when. -/
structure Progress where
  phase : String
  baseline : Baseline
  updatedAt : Option Instant
  updatedBy : Option String
deriving DecidableEq, Repr, Inhabited

namespace Progress

def toJson (p : Progress) : Json :=
  .obj ([("state", .str p.phase)] ++ p.baseline.entries ++
    (p.updatedAt.map fun t => ("updated_at", .str t.text)).toList ++
    (p.updatedBy.map fun who => ("updated_by", .str who)).toList)

def decoder : Decoder Progress := fun doc => do
  let ((phase, baseline, updatedAt, updatedBy), _) ← Fields.spread "PhaseRecord"
    ((fun phase baseline updatedAt updatedBy => (phase, baseline, updatedAt, updatedBy))
      <$> Fields.required "state" Decoder.string
      <*> Baseline.fields
      <*> Fields.optional "updated_at" Lock.instant
      <*> Fields.optional "updated_by" Decoder.string) doc
  return ⟨phase, baseline, updatedAt, updatedBy⟩

end Progress

/-- The progress of a procedure: where it is kept, and the phase reached as far as is known. -/
structure Tracker (P : Type) where
  registry : Registry
  key : String
  ranks : PhaseRanks P
  current : P

namespace Tracker

variable {P : Type} {σ : Type} [Host σ]

/-- A tracker that knows of no progress. -/
def fresh (registry : Registry) (key : String) (ranks : PhaseRanks P) : Tracker P :=
  ⟨registry, key, ranks, ranks.initial⟩

/-- Whether the phase reached is as far as `target`. -/
def reached (t : Tracker P) (target : P) : Bool := t.ranks.reached t.current target

/-- Whether there is a document of progress, of whatever shape. -/
def exists? (t : Tracker P) : Act σ Bool := do
  return (← t.registry.get t.key).isSome

/-- The phase and the baseline that a document tells of. -/
def interpret (ranks : PhaseRanks P) (document : Option Json) : P × Baseline :=
  match document.map Progress.decoder.ofJson with
  | some (.ok progress) => ((ranks.parse progress.phase).getD ranks.initial, progress.baseline)
  | _ => (ranks.initial, .unknown)

/-- Takes up the progress in the registry; if it cannot be read, the tracker is back at the start. -/
def load (t : Tracker P) : Act σ (Tracker P × Except Fault Baseline) := do
  match ← (t.registry.get t.key).attempt with
  | .ok document =>
    let (phase, baseline) := interpret t.ranks document
    return ({ t with current := phase }, .ok baseline)
  | .error e => return ({ t with current := t.ranks.initial }, .error e)

/-- Notes that a phase is reached; there is no way back. -/
def advance (t : Tracker P) (phase : P) (baseline : Baseline) : Act σ (Tracker P) := do
  if t.ranks.rank phase < t.ranks.rank t.current then
    Act.fail (.internal (t.key ++ " cannot move back from " ++ t.ranks.name t.current ++ " to " ++
      t.ranks.name phase))
  else do
    let (now, who) ← Act.asks fun w => (w.date, w.holder)
    t.registry.update t.key (Progress.toJson ⟨t.ranks.name phase, baseline, some now, some who⟩)
    return { t with current := phase }

/-- Forgets the progress. -/
def clear (t : Tracker P) : Act σ (Tracker P) := do
  let _ ← t.registry.deleteIfPresent t.key
  return { t with current := t.ranks.initial }

end Tracker

end Rollout
