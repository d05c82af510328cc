import Rollout.Proofs.Access
import Rollout.Proofs.Registry.Keys
import Rollout.Upgrade.Database

/-!
# Rollout.Proofs.Upgrade.Keys — an upgrade keeps to its own document

To decide whether there is anything to upgrade is to ask the orchestrator, and to look at the record of progress at
most.  A run keeps its record under one key, which every stage passes on to the next, and it accesses no other document.

* `DatabaseUpgrade.eligible_within`: the decision.
* `DatabaseUpgrade.Stage.Keeps`: a part of a run that keeps to the document of a key and passes the key on.
* `DatabaseUpgrade.upgrade_within`: a whole run.
-/

namespace Rollout

variable {σ α : Type} [Host σ]

namespace Tracker

variable {P : Type} (t : Tracker P)

theorem load_within : Within (Event.At t.key) (t.load : Act σ (Tracker P × Except Fault Baseline)) := by
  unfold load
  refine ((t.registry.get_within t.key).mono fun _ => Event.Gets.at).attempt.bind fun found => ?_
  split
  · exact within_pure _
  · exact within_pure _

theorem load_returns : (t.load : Act σ (Tracker P × Except Fault Baseline)).Returns fun a => a.1.key = t.key := by
  unfold load
  refine (Act.returns _).bind fun found _ => ?_
  split
  · exact Act.returns_pure rfl
  · exact Act.returns_pure rfl

theorem advance_within (phase : P) (b : Baseline) : Within (Event.At t.key) (t.advance phase b : Act σ (Tracker P)) := by
  unfold advance
  split
  · exact within_fail _
  · refine (within_asks fun _ _ _ _ => rfl).bind fun _ => ?_
    exact (t.registry.update_within t.key _).bind fun _ => within_pure _

theorem advance_returns (phase : P) (b : Baseline) :
    (t.advance phase b : Act σ (Tracker P)).Returns fun t' => t'.key = t.key := by
  unfold advance
  split
  · exact Act.returns_fail _
  · exact (Act.returns _).bind fun _ _ => (Act.returns _).bind fun _ _ => Act.returns_pure rfl

theorem clear_within : Within (Event.At t.key) (t.clear : Act σ (Tracker P)) :=
  (t.registry.deleteIfPresent_within t.key).bind fun _ => within_pure _

end Tracker

namespace DatabaseUpgrade

variable (u : DatabaseUpgrade)

/-! ## The decision -/

/-- The record of progress was looked up, or the orchestrator was asked something. -/
def Looks (u : DatabaseUpgrade) (e : Event) : Prop := e.Gets u.settings.stateKey ∨ u.orchestrator.Asks e

variable {u} in
theorem Looks.not_changes {e : Event} (h : u.Looks e) : e.changes = false := by
  rcases h with hgets | hasks
  · exact hgets.not_changes
  · exact hasks.not_changes

theorem eligible_within : Within u.Looks (u.eligible : Act σ Outcome) := by
  have ask_within (c : Call) (hc : c.changes = false) : Within u.Looks (u.orchestrator.ask c : Act σ c.Answer) :=
    (u.orchestrator.asks_within c hc).mono fun _ => .inr
  have exists_within : Within u.Looks (u.tracker.exists? : Act σ Bool) :=
    ((u.registry.get_within u.settings.stateKey).mono fun _ => .inl).bind fun _ => within_pure _
  have leader_within : Within u.Looks (u.leader? : Act σ (Option String)) := by
    refine (ask_within (.leader u.app) rfl).attempt.bind fun found => ?_
    split
    · exact within_pure _
    · exact within_pure _
    · exact within_fail _
  have eligibleWith_within (app : Application) (latest : Nat) (leader : String) :
      Within u.Looks (u.eligibleWith app latest leader : Act σ Outcome) := by
    unfold eligibleWith
    refine (ask_within _ rfl).bind fun stack => ?_
    split
    · exact within_pure _
    · split
      · exact within_pure _
      · refine exists_within.bind fun present => ?_
        split
        · exact within_pure _
        · exact within_pure _
  have eligibleOn_within (app : Application) (desired : Component) :
      Within u.Looks (u.eligibleOn app desired : Act σ Outcome) := by
    unfold eligibleOn
    split
    · exact within_pure _
    · refine (ask_within _ rfl).bind fun latest => ?_
      split
      · exact within_pure _
      · refine leader_within.bind fun leader => ?_
        split
        · exact within_pure _
        · exact eligibleWith_within _ _ _
  unfold eligible
  refine (ask_within _ rfl).bind fun app => ?_
  split
  · exact within_pure _
  · split
    · exact within_pure _
    · dsimp only
      split
      · exact within_pure _
      · split
        · exact within_pure _
        · exact eligibleOn_within _ _

/-! ## The phases -/

namespace Stage

/-- A part of a run that keeps to the document of a key, and whose next stage tracks its progress under this key. -/
structure Keeps (key : String) (x : Act σ Stage) : Prop where
  within : Within (Event.At key) x
  returns : x.Returns fun s => s.tracker.key = key

variable {key : String} {s : Stage}

section Rules

variable {x : Act σ α} {y : Act σ Stage}

omit [Host σ] in
theorem keeps_pure (h : s.tracker.key = key) : Keeps key (pure s : Act σ Stage) := ⟨within_pure s, Act.returns_pure h⟩

omit [Host σ] in
theorem keeps_fail (f : Fault) : Keeps key (Act.fail f : Act σ Stage) := ⟨within_fail f, Act.returns_fail f⟩

omit [Host σ] in
theorem keeps_bind {f : α → Act σ Stage} (hx : Within (Event.At key) x) (hf : ∀ a, Keeps key (f a)) :
    Keeps key (x >>= f) where
  within := hx.bind fun a => (hf a).within
  returns := x.returns.bind fun a _ => (hf a).returns

omit [Host σ] in
/-- The next part goes on with the key that the first has passed on. -/
theorem Keeps.andThen {f : Stage → Act σ Stage} (hy : Keeps key y) (hf : ∀ s, s.tracker.key = key → Keeps key (f s)) :
    Keeps key (y >>= f) where
  within := hy.within.bind_of hy.returns fun s hs => (hf s hs).within
  returns := hy.returns.bind fun s hs => (hf s hs).returns

omit [Host σ] in
theorem keeps_through (h : s.tracker.key = key) (phase : DatabasePhase) (hy : Keeps key y) :
    Keeps key (s.through phase y) := by
  unfold through
  split
  · exact keeps_pure h
  · exact hy

omit [Host σ] in
theorem keeps_publish {text : String} (hy : Keeps key y) : Keeps key (Act.publish text >>= fun _ => y) :=
  keeps_bind (within_publish trivial) fun _ => hy

end Rules

theorem keeps_advance (h : s.tracker.key = key) (phase : DatabasePhase) :
    Keeps key (s.advance phase : Act σ Stage) := by
  subst h
  constructor
  · exact (s.tracker.advance_within phase s.baseline).bind fun _ => within_pure _
  · exact (s.tracker.advance_returns phase s.baseline).bind fun t ht => Act.returns_pure ht

end Stage

/-! ## The calls of the phases -/

variable (key : String)

theorem ask_keeps (c : Call) : Within (Event.At key) (u.orchestrator.ask c : Act σ c.Answer) :=
  (u.orchestrator.ask_within c).mono fun _ he => he.at key

theorem settled_keeps (seconds : Nat) :
    Within (Event.At key) ((u.wait seconds).settled u.orchestrator u.app accepted : Act σ Application) :=
  ((u.wait seconds).settled_within u.orchestrator u.app accepted).mono fun _ he => he.at key

theorem upgraded_keeps (unit : String) : Within (Event.At key)
    ((u.wait u.settings.primaryUnitTimeout).upgraded u.orchestrator u.app unit : Act σ Unit) :=
  ((u.wait _).upgraded_within u.orchestrator u.app unit).mono fun _ he => he.at key

theorem scaleAndWait_keeps (units : Nat) : Within (Event.At key) (u.scaleAndWait units : Act σ Unit) :=
  (u.ask_keeps key _).bind fun _ => (u.settled_keeps key _).bind fun _ => within_pure _

theorem leaderAction_keeps (phase : DatabasePhase) (action : String) :
    Within (Event.At key) (u.leaderAction phase action : Act σ Unit) := by
  unfold leaderAction
  refine (u.ask_keeps key _).attempt.bind fun leader => ?_
  split
  · exact within_fail _
  · refine (u.ask_keeps key _).attempt.bind fun done => ?_
    split
    · exact within_pure _
    · exact within_fail _

/-! ## The phases -/

section Phases

variable {key} {s : Stage} (h : s.tracker.key = key)
include h

open Stage

theorem recordBaseline_keeps : Keeps key (u.recordBaseline s : Act σ Stage) := by
  unfold recordBaseline
  refine keeps_through h _ (keeps_bind (u.ask_keeps key _) fun found => ?_)
  split
  · exact keeps_fail _
  · refine keeps_advance ?_ _
    exact h

theorem scaleUp_keeps : Keeps key (u.scaleUp s : Act σ Stage) := by
  unfold scaleUp
  refine keeps_through h _ ?_
  split
  · exact keeps_fail _
  · refine keeps_publish (keeps_bind (u.scaleAndWait_keeps key _).attempt fun scaled => ?_)
    split
    · exact keeps_advance h _
    · exact keeps_fail _

theorem precheck_keeps : Keeps key (u.precheck s : Act σ Stage) := by
  unfold precheck
  exact keeps_through h _ (keeps_publish (keeps_bind (u.leaderAction_keeps key _ _) fun _ => keeps_advance h _))

theorem upgradePrimaryUnit_keeps : Keeps key (u.upgradePrimaryUnit s : Act σ Stage) := by
  unfold upgradePrimaryUnit
  refine keeps_through h _ (keeps_bind (u.ask_keeps key _) fun found => ?_)
  split
  · exact keeps_fail _
  · refine keeps_publish (keeps_bind (u.ask_keeps key _).attempt fun refreshed => ?_)
    split
    · exact keeps_fail _
    · refine keeps_bind (u.upgraded_keeps key _).attempt fun upgraded => ?_
      split
      · exact keeps_advance h _
      · exact keeps_fail _

theorem resumeUpgrade_keeps : Keeps key (u.resumeUpgrade s : Act σ Stage) := by
  unfold resumeUpgrade
  exact keeps_through h _ (keeps_publish (keeps_bind (u.leaderAction_keeps key _ _) fun _ => keeps_advance h _))

theorem waitUnitsSettled_keeps : Keeps key (u.waitUnitsSettled s : Act σ Stage) := by
  unfold waitUnitsSettled
  refine keeps_through h _ (keeps_publish (keeps_bind (u.settled_keeps key _).attempt fun settled => ?_))
  split
  · exact keeps_advance h _
  · exact keeps_fail _

theorem scaleBack_keeps : Keeps key (u.scaleBack s : Act σ Stage) := by
  unfold scaleBack
  refine keeps_through h _ ?_
  split
  · exact keeps_publish (keeps_pure h)
  · refine keeps_bind (u.ask_keeps key _) fun found => ?_
    dsimp only
    split
    · exact keeps_publish (keeps_pure h)
    · refine keeps_publish (keeps_bind (u.scaleAndWait_keeps key _).attempt fun scaled => ?_)
      split
      · exact keeps_advance h _
      · exact keeps_pure h

theorem drive_keeps : Keeps key (u.drive s : Act σ Stage) := by
  unfold drive
  refine (u.recordBaseline_keeps h).andThen fun _ h => ?_
  refine (u.scaleUp_keeps h).andThen fun _ h => ?_
  refine (u.precheck_keeps h).andThen fun _ h => ?_
  refine (u.upgradePrimaryUnit_keeps h).andThen fun _ h => ?_
  refine (u.resumeUpgrade_keeps h).andThen fun _ h => ?_
  refine (u.waitUnitsSettled_keeps h).andThen fun _ h => ?_
  exact u.scaleBack_keeps h

end Phases

omit [Host σ] in
/-- What keeps to the document of any key alone changes no document at all. -/
theorem store_eq_of_keeps {x : Act σ α} (h : ∀ key, Within (Event.At key) x) {w w' : World σ} {r : Except Fault α}
    (hx : x w = (r, w')) : w'.store = w.store := by
  have hworld : (x w).2 = w' := congrArg Prod.snd hx
  refine hworld ▸ Table.ext_get? fun key => ((h (key ++ "/")).becomes w).store key fun a ha _ heq => ?_
  have hkey : a.key = key ++ "/" := ha
  have hlength := congrArg String.length (hkey.symm.trans heq)
  rw [String.length_append] at hlength
  exact absurd hlength (by simp)

variable {u} in
/-- A call changes no document. -/
theorem store_of_ask {c : Call} {w w' : World σ} {r : Except Fault c.Answer} (h : u.orchestrator.ask c w = (r, w')) :
    w'.store = w.store := store_eq_of_keeps (fun key => u.ask_keeps key c) h

/-- A run accesses the document of its own key only. -/
theorem upgrade_within : Within (Event.At u.settings.stateKey) (u.upgrade : Act σ Outcome) := by
  unfold upgrade
  refine u.tracker.load_within.bind_of u.tracker.load_returns fun loaded hloaded => ?_
  refine (within_ofExcept _).bind fun baseline => ?_
  have hdrive := u.drive_keeps (σ := σ) (s := ⟨loaded.1, baseline⟩) hloaded
  refine hdrive.within.bind_of hdrive.returns fun s hs => ?_
  have hcleared := s.tracker.clear_within (σ := σ)
  rw [hs] at hcleared
  exact hcleared.bind fun _ => within_pure _

end DatabaseUpgrade

end Rollout
