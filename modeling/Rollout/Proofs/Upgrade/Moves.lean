import Mathlib.Data.List.Forall2
import Rollout.Proofs.Access
import Rollout.Proofs.Upgrade.Ranks
import Rollout.Upgrade.Database

/-!
# Rollout.Proofs.Upgrade.Moves — the row of moves that an upgrade makes

Each phase of an upgrade after the first is noted in the registry, and five of them are brought about by a call that
changes what runs.  The notes and calls that are left after a phase stand in one fixed row, whatever happens.

* `DatabasePhase.place`, `ahead`, `changing`: the phases by their order.
* `Move`: a call of a phase or the note that it is reached; `DatabasePhase.moves` is the row of those left.
* `DatabaseUpgrade.Makes`, `DatabaseUpgrade.record`: the call and the document of a phase.
* `DatabaseUpgrade.Follows`: things done that are a row of moves, one for one.
* `eq_of_call_prefix`: where a call stands in the row, the notes and calls before it are those of the phases before.
-/

namespace Rollout

namespace DatabasePhase

/-! ## The order of the phases -/

/-- How many phases come before. -/
def place (k : DatabasePhase) : Nat := sequence.idxOf k

/-- The phases that come after one, in their order. -/
def ahead (p : DatabasePhase) : List DatabasePhase := sequence.filter (p.place < ·.place)

/-- Whether a phase is brought about by a call that changes what runs. -/
def hasCall : DatabasePhase → Bool
  | scaledUp | precheckDone | primaryUnitUpgraded | upgradeResumed | scaledBack => true
  | _ => false

/-- The phases after one that are brought about by a call. -/
def changing (p : DatabasePhase) : List DatabasePhase := p.ahead.filter hasCall

theorem mem_sequence (k : DatabasePhase) : k ∈ sequence := by cases k <;> decide

theorem getElem?_place (k : DatabasePhase) : sequence[k.place]? = some k := by cases k <;> decide

theorem ahead_eq_drop (p : DatabasePhase) : p.ahead = sequence.drop (p.place + 1) := by cases p <;> decide

theorem rank_eq_place {r : PhaseRanks DatabasePhase} (h : ranks? = some r) (k : DatabasePhase) :
    r.rank k = k.place :=
  PhaseRanks.rank_of_build h (getElem?_place k)

theorem parse_name {r : PhaseRanks DatabasePhase} (h : ranks? = some r) (k : DatabasePhase) :
    r.parse k.name = some k :=
  (PhaseRanks.parse_of_build h).mpr ⟨mem_sequence k, rfl⟩

theorem name_eq {r : PhaseRanks DatabasePhase} (h : ranks? = some r) : r.name = name :=
  PhaseRanks.name_of_build h

theorem initial_eq {r : PhaseRanks DatabasePhase} (h : ranks? = some r) : r.initial = start :=
  (Option.some.inj (PhaseRanks.initial_of_build h)).symm

theorem place_eq_zero {p : DatabasePhase} : p.place = 0 ↔ p = start := by cases p <;> decide

theorem baselineRecorded_le_place {p : DatabasePhase} (h : p ≠ start) : baselineRecorded.place ≤ p.place := by
  cases p with
  | start => exact absurd rfl h
  | _ => decide

theorem place_injective : Function.Injective place := by
  intro p k h
  exact (List.idxOf_inj (mem_sequence p)).mp h

theorem name_injective : Function.Injective name := by
  intro k k' h
  cases k <;> cases k' <;> first | rfl | exact absurd h (by decide)

theorem ahead_rises (p : DatabasePhase) : p.ahead.Pairwise (·.place < ·.place) :=
  List.Pairwise.filter _ (by decide)

theorem mem_ahead {p k : DatabasePhase} : k ∈ p.ahead ↔ p.place < k.place := by
  simp [ahead, mem_sequence k]

theorem ahead_eq {k k' : DatabasePhase} (h : k'.place = k.place + 1) : k.ahead = k' :: k'.ahead := by
  cases k <;> cases k' <;> first | rfl | cases h

/-- What holds of the last phase, and of each phase if it holds of the next, holds of all. -/
theorem backward {P : DatabasePhase → Prop} (last : P scaledBack) (step : ∀ k k', k'.place = k.place + 1 → P k' → P k)
    (k : DatabasePhase) : P k := by
  have hsettled : P unitsSettled := step _ _ rfl last
  have hresumed : P upgradeResumed := step _ _ rfl hsettled
  have hprimary : P primaryUnitUpgraded := step _ _ rfl hresumed
  have hcheck : P precheckDone := step _ _ rfl hprimary
  have hscaled : P scaledUp := step _ _ rfl hcheck
  have hrecorded : P baselineRecorded := step _ _ rfl hscaled
  cases k with
  | start => exact step _ _ rfl hrecorded
  | _ => assumption

/-- In a row of phases that rises, those before one are those of a lesser place. -/
theorem filter_place_of_split {ks before after : List DatabasePhase} {k : DatabasePhase}
    (h : ks.Pairwise (·.place < ·.place)) (hs : ks = before ++ k :: after) :
    ks.filter (·.place < k.place) = before := by
  subst hs
  obtain ⟨-, hafter, hcross⟩ := List.pairwise_append.mp h
  have hbefore : before.filter (·.place < k.place) = before :=
    List.filter_eq_self.mpr fun j hj => decide_eq_true (hcross j hj k List.mem_cons_self)
  have hrest : (k :: after).filter (·.place < k.place) = [] := by
    refine List.filter_eq_nil_iff.mpr fun j hj => ?_
    rcases List.mem_cons.mp hj with rfl | hj
    · simp
    · have := List.rel_of_pairwise_cons hafter hj
      simp only [decide_eq_true_eq]
      omega
  rw [List.filter_append, hbefore, hrest, List.append_nil]

end DatabasePhase

/-! ## Moves -/

/-- What a phase does that lasts: its call, and the note that it is reached. -/
inductive Move
  | call (phase : DatabasePhase)
  | note (phase : DatabasePhase)
deriving DecidableEq

namespace Move

/-- The phase that calls. -/
def caller? : Move → Option DatabasePhase
  | call k => some k
  | note _ => none

/-- The phase that is noted. -/
def noted? : Move → Option DatabasePhase
  | call _ => none
  | note k => some k

end Move

namespace DatabasePhase

/-- The call of a phase, if it has one. -/
def callMoves (k : DatabasePhase) : List Move := if k.hasCall then [.call k] else []

/-- The moves of a phase. -/
def ownMoves (k : DatabasePhase) : List Move := k.callMoves ++ [.note k]

/-- The moves that are left after a phase. -/
def moves (p : DatabasePhase) : List Move := p.ahead.flatMap ownMoves

theorem callers_flatMap (ks : List DatabasePhase) :
    (ks.flatMap ownMoves).filterMap Move.caller? = ks.filter hasCall := by
  induction ks with
  | nil => rfl
  | cons k ks ih =>
    rw [List.flatMap_cons, List.filterMap_append, ih]
    by_cases h : k.hasCall
    · simp [ownMoves, callMoves, h, Move.caller?]
    · simp [ownMoves, callMoves, h, Move.caller?]

theorem noted_flatMap (ks : List DatabasePhase) : (ks.flatMap ownMoves).filterMap Move.noted? = ks := by
  induction ks with
  | nil => rfl
  | cons k ks ih =>
    rw [List.flatMap_cons, List.filterMap_append, ih]
    by_cases h : k.hasCall
    · simp [ownMoves, callMoves, h, List.filterMap_cons, Move.noted?]
    · simp [ownMoves, callMoves, h, Move.noted?]

/-- What stands before a call in the moves of a row of phases are the moves of the phases before. -/
theorem split_of_call_prefix {ks : List DatabasePhase} {ms : List Move} {k : DatabasePhase}
    (h : ms ++ [.call k] <+: ks.flatMap ownMoves) :
    ∃ before after, ks = before ++ k :: after ∧ ms = before.flatMap ownMoves ∧ k.hasCall := by
  induction ks generalizing ms with
  | nil =>
    obtain ⟨rest, hrest⟩ := h
    simp at hrest
  | cons j ks ih =>
    obtain ⟨rest, hrest⟩ := h
    rw [List.flatMap_cons] at hrest
    -- The call is that of the first phase, or it stands behind all moves of the first phase.
    by_cases hj : j.hasCall
    · have hown : j.ownMoves = [.call j, .note j] := by simp [ownMoves, callMoves, hj]
      rw [hown] at hrest
      match ms, hrest with
      | [], hrest =>
        obtain ⟨rfl⟩ : k = j := by simpa using congrArg List.head? hrest
        exact ⟨[], ks, rfl, rfl, hj⟩
      | [m], hrest => simp at hrest
      | m :: m' :: ms, hrest =>
        simp only [List.cons_append, List.nil_append, List.cons.injEq] at hrest
        obtain ⟨rfl, rfl, hrest⟩ := hrest
        obtain ⟨before, after, rfl, rfl, hk⟩ := ih ⟨rest, hrest⟩
        exact ⟨j :: before, after, rfl, by rw [List.flatMap_cons, hown]; rfl, hk⟩
    · have hown : j.ownMoves = [.note j] := by simp [ownMoves, callMoves, hj]
      rw [hown] at hrest
      match ms, hrest with
      | [], hrest => simp at hrest
      | m :: ms, hrest =>
        simp only [List.cons_append, List.nil_append, List.cons.injEq] at hrest
        obtain ⟨rfl, hrest⟩ := hrest
        obtain ⟨before, after, rfl, rfl, hk⟩ := ih ⟨rest, hrest⟩
        exact ⟨j :: before, after, rfl, by rw [List.flatMap_cons, hown]; rfl, hk⟩

/-- Before a call the phases between are noted, all of them and no others, and the calls made are the first of those
that are left. -/
theorem eq_of_call_prefix {p k : DatabasePhase} {ms : List Move} (h : ms ++ [.call k] <+: p.moves) :
    ms.filterMap Move.noted? = p.ahead.filter (·.place < k.place) ∧
      p.changing[(ms.filterMap Move.caller?).length]? = some k := by
  obtain ⟨before, after, hsplit, rfl, hk⟩ := split_of_call_prefix h
  refine ⟨by rw [noted_flatMap, filter_place_of_split p.ahead_rises hsplit], ?_⟩
  rw [callers_flatMap, changing, hsplit, List.filter_append, List.filter_cons_of_pos hk]
  simp

theorem callers_prefix {p : DatabasePhase} {ms : List Move} (h : ms <+: p.moves) :
    ms.filterMap Move.caller? <+: p.changing := by
  rw [changing, ← callers_flatMap]
  exact h.filterMap _

theorem noted_prefix {p : DatabasePhase} {ms : List Move} (h : ms <+: p.moves) :
    ms.filterMap Move.noted? <+: p.ahead := by
  have h' := h.filterMap Move.noted?
  rwa [moves, noted_flatMap] at h'

end DatabasePhase

/-! ## Moves and the things done -/

/-- What a trace calls that changes what runs. -/
def Event.changingCall? : Event → Option Call
  | .call c => if c.changes then some c else none
  | _ => none

/-- The document that was stored under a key. -/
def Event.stored? (key : String) : Event → Option Json
  | .access (.put k value) true => if k = key then some value else none
  | _ => none

theorem Event.filterMap_changesOf {β : Type} {f : Event → Option β} (h : ∀ e, e.changes = false → f e = none)
    (t : List Event) : (Event.changesOf t).filterMap f = t.filterMap f := by
  rw [Event.changesOf, List.filterMap_filter]
  congr 1
  funext e
  split
  · rfl
  · rename_i he
    exact (h e (Bool.not_eq_true _ ▸ he)).symm

theorem Event.changingCall?_eq_none {e : Event} (h : e.changes = false) : e.changingCall? = none := by
  cases e with
  | call c =>
    have hc : c.changes = false := h
    simp [Event.changingCall?, hc]
  | _ => rfl

theorem Event.stored?_eq_none {e : Event} (key : String) (h : e.changes = false) : e.stored? key = none := by
  match e, h with
  | .access (.put _ _) true, h => cases h
  | .access (.put _ _) false, _ | .access (.delete _) _, _ | .access (.get _) _, _ => rfl
  | .command .., _ | .call _, _ | .request _, _ | .file _, _ | .status _, _ | .printed _, _ | .shown _, _ => rfl

namespace DatabaseUpgrade

variable (u : DatabaseUpgrade) (b : Baseline)

/-- The call by which a phase is brought about. -/
def Makes : DatabasePhase → Call → Prop
  | .scaledUp, c => ∃ n, b.scale = some n ∧ c = .scale u.app (Upgrade.targetScale n)
  | .precheckDone, c => ∃ leader, c = .action leader "pre-upgrade-check" Table.empty
  | .primaryUnitUpgraded, c => c = .refresh u.app
  | .upgradeResumed, c => ∃ leader, c = .action leader "resume-upgrade" Table.empty
  | .scaledBack, c => ∃ n, b.scale = some n ∧ c = .scale u.app n
  | _, _ => False

/-- The document that notes a phase. -/
def record (b : Baseline) (phase : DatabasePhase) (date : Instant) (who : String) : Json :=
  (Progress.toJson ⟨phase.name, b, some date, some who⟩).sort

/-- A thing done is a move; `D` holds of the dates that may stand in a document. -/
def IsMove (D : Instant → Prop) : Move → Event → Prop
  | .call k, e => ∃ c, u.Makes b k c ∧ e = .call c
  | .note k, e => ∃ date who, D date ∧ e = .access (.put u.settings.stateKey (record b k date who)) true

/-- Things done are a row of moves. -/
def Follows (D : Instant → Prop) : List Move → List Event → Prop := List.Forall₂ (u.IsMove b D)

variable {u b} {D D' : Instant → Prop} {ms : List Move} {es : List Event}

theorem Makes.changes {k : DatabasePhase} {c : Call} (h : u.Makes b k c) : c.changes = true := by
  cases k with
  | scaledUp => obtain ⟨n, -, rfl⟩ := h; rfl
  | precheckDone => obtain ⟨leader, rfl⟩ := h; rfl
  | primaryUnitUpgraded => cases h; rfl
  | upgradeResumed => obtain ⟨leader, rfl⟩ := h; rfl
  | scaledBack => obtain ⟨n, -, rfl⟩ := h; rfl
  | start => exact h.elim
  | baselineRecorded => exact h.elim
  | unitsSettled => exact h.elim

theorem Follows.mono (h : u.Follows b D ms es) (hD : ∀ i, D i → D' i) : u.Follows b D' ms es := by
  refine List.Forall₂.imp (fun m e hm => ?_) h
  cases m with
  | call k => exact hm
  | note k =>
    obtain ⟨date, who, hd, rfl⟩ := hm
    exact ⟨date, who, hD _ hd, rfl⟩

theorem Follows.append {ms' : List Move} {es' : List Event} (h : u.Follows b D ms es)
    (h' : u.Follows b D ms' es') : u.Follows b D (ms ++ ms') (es ++ es') :=
  List.rel_append h h'

/-- Without a move nothing depends on what was found at the start. -/
theorem Follows.nil_iff : u.Follows b D [] es ↔ es = [] := List.forall₂_nil_left_iff

/-- The calls made are those of the phases that call. -/
theorem Follows.calls (h : u.Follows b D ms es) :
    List.Forall₂ (u.Makes b) (ms.filterMap Move.caller?) (es.filterMap Event.changingCall?) := by
  induction h with
  | nil => exact .nil
  | @cons m e ms es hm _ ih =>
    cases m with
    | call k =>
      obtain ⟨c, hc, rfl⟩ := hm
      have hcall : Event.changingCall? (.call c) = some c := if_pos hc.changes
      have hcaller : Move.caller? (.call k) = some k := rfl
      rw [List.filterMap_cons_some hcaller, List.filterMap_cons_some hcall]
      exact .cons hc ih
    | note k =>
      obtain ⟨date, who, -, rfl⟩ := hm
      rw [List.filterMap_cons_none rfl, List.filterMap_cons_none rfl]
      exact ih

/-- The documents stored are those of the phases noted. -/
theorem Follows.notes (h : u.Follows b D ms es) :
    List.Forall₂ (fun k value => ∃ date who, D date ∧ value = record b k date who) (ms.filterMap Move.noted?)
      (es.filterMap (Event.stored? u.settings.stateKey)) := by
  induction h with
  | nil => exact .nil
  | @cons m e ms es hm _ ih =>
    cases m with
    | call k =>
      obtain ⟨c, -, rfl⟩ := hm
      rw [List.filterMap_cons_none rfl, List.filterMap_cons_none rfl]
      exact ih
    | note k =>
      obtain ⟨date, who, hd, rfl⟩ := hm
      have hstored : Event.stored? u.settings.stateKey
          (.access (.put u.settings.stateKey (record b k date who)) true) = some (record b k date who) := if_pos rfl
      have hnoted : Move.noted? (.note k) = some k := rfl
      rw [List.filterMap_cons_some hnoted, List.filterMap_cons_some hstored]
      exact .cons ⟨date, who, hd, rfl⟩ ih

/-- A document that was stored is that of a phase that was noted. -/
theorem Follows.exists_note (h : u.Follows b D ms es) {v : Json}
    (hv : v ∈ es.filterMap (Event.stored? u.settings.stateKey)) :
    ∃ k ∈ ms.filterMap Move.noted?, ∃ date who, D date ∧ v = record b k date who := by
  obtain ⟨i, hi, rfl⟩ := List.mem_iff_getElem.mp hv
  have hi' : i < (ms.filterMap Move.noted?).length := by rwa [h.notes.length_eq]
  exact ⟨_, List.getElem_mem hi', h.notes.get hi' hi⟩

/-- A call that was made is that of a phase that calls. -/
theorem Follows.exists_call (h : u.Follows b D ms es) {c : Call} (hc : .call c ∈ es) :
    ∃ k, .call k ∈ ms ∧ u.Makes b k c := by
  induction h with
  | nil => cases hc
  | @cons m e ms es hm _ ih =>
    rcases List.mem_cons.mp hc with rfl | hc
    · cases m with
      | call k =>
        obtain ⟨c', hmakes, heq⟩ := hm
        cases heq
        exact ⟨k, List.mem_cons_self, hmakes⟩
      | note k =>
        obtain ⟨date, who, -, heq⟩ := hm
        cases heq
    · obtain ⟨k, hk, hmakes⟩ := ih hc
      exact ⟨k, List.mem_cons_of_mem _ hk, hmakes⟩

/-- No move removes a document. -/
theorem Follows.not_mem_delete (h : u.Follows b D ms es) (key : String) (granted : Bool) :
    Event.access (.delete key) granted ∉ es := by
  induction h with
  | nil => simp
  | @cons m e ms es hm _ ih =>
    rw [List.mem_cons, not_or]
    refine ⟨?_, ih⟩
    cases m with
    | call k => obtain ⟨c, -, rfl⟩ := hm; simp
    | note k => obtain ⟨date, who, -, rfl⟩ := hm; simp

/-- What was done before a call are the moves before it. -/
theorem Follows.split_call {es₁ es₂ : List Event} {c : Call} (h : u.Follows b D ms (es₁ ++ .call c :: es₂)) :
    ∃ ms₁ k ms₂, ms = ms₁ ++ .call k :: ms₂ ∧ u.Follows b D ms₁ es₁ ∧ u.Makes b k c := by
  have h1 := List.forall₂_take_append ms es₁ (.call c :: es₂) h
  obtain ⟨m, ms₂, hm, -, hdrop⟩ := List.forall₂_cons_right_iff.mp (List.forall₂_drop_append ms es₁ _ h)
  have hms : ms = ms.take es₁.length ++ m :: ms₂ := by rw [← hdrop, List.take_append_drop]
  cases m with
  | call k =>
    obtain ⟨c', hc, heq⟩ := hm
    cases heq
    exact ⟨_, k, ms₂, hms, h1, hc⟩
  | note k =>
    obtain ⟨date, who, -, heq⟩ := hm
    cases heq

end DatabaseUpgrade

end Rollout
