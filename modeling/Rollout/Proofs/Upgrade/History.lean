import Rollout.Proofs.Upgrade.Record
import Rollout.Proofs.Upgrade.Resume

/-!
# Rollout.Proofs.Upgrade.History — one upgrade over many runs

Runs follow one another, each with a host, a clock and settings of its own, and find the document of the upgrade as
the run before left it.  From the first document that is stored until it is removed the phases rise, and what was
found at the start stays as it is.

* `Run`, `History`: runs over one document.
* `Course`: what may happen to the document, one thing done after another.
* `Run.Regular.course`: a run keeps the document on its course.
* `history_kept`: so does every history, and only a run that completes removes the document.
* `History.at`: what a run finds in the document when it does something.
-/

namespace Rollout

/-- One run of an upgrade, and the world it starts in. -/
structure Run (σ : Type) where
  upgrade : DatabaseUpgrade
  before : World σ

/-- What is known of an upgrade while there is a document: the phase reached and what was found at the start. -/
structure Mark where
  phase : DatabasePhase
  baseline : Baseline

namespace Mark

/-- A mark that a run has left. -/
structure Sound (m : Mark) : Prop where
  started : m.phase ≠ .start
  scale : m.baseline.scale.isSome
  fits : m.baseline.Fits

end Mark

/-- What a document tells of an upgrade. -/
def PhaseRanks.told (ranks : PhaseRanks DatabasePhase) (document : Json) : Mark :=
  ⟨(Tracker.interpret ranks (some document)).1, (Tracker.interpret ranks (some document)).2⟩

/-! ## The course of a document -/

/-- A thing done that neither stores nor removes the document of a key. -/
def Event.Spares (key : String) (e : Event) : Prop := e.stored? key = none ∧ e ≠ .access (.delete key) true

/-- What may happen to the document of a key: it begins with the first phase, goes on to later phases with the same
baseline, and may be removed.  `none` stands for no document. -/
inductive Course (ranks : PhaseRanks DatabasePhase) (key : String) : Option Mark → List Event → Option Mark → Prop
  | done (m : Option Mark) : Course ranks key m [] m
  | spare {m m' : Option Mark} {e : Event} {t : List Event} (he : e.Spares key) (ht : Course ranks key m t m') :
    Course ranks key m (e :: t) m'
  | begin {document : Json} {m' : Option Mark} {t : List Event} (hphase : (ranks.told document).phase = .baselineRecorded)
    (hsound : (ranks.told document).Sound) (ht : Course ranks key (some (ranks.told document)) t m') :
    Course ranks key none (.access (.put key document) true :: t) m'
  | advance {m : Mark} {document : Json} {m' : Option Mark} {t : List Event}
    (hphase : m.phase.place < (ranks.told document).phase.place) (hbaseline : (ranks.told document).baseline = m.baseline)
    (hsound : (ranks.told document).Sound) (ht : Course ranks key (some (ranks.told document)) t m') :
    Course ranks key (some m) (.access (.put key document) true :: t) m'
  | remove {m m' : Option Mark} {t : List Event} (ht : Course ranks key none t m') :
    Course ranks key m (.access (.delete key) true :: t) m'

namespace Course

variable {ranks : PhaseRanks DatabasePhase} {key : String} {m m' m'' : Option Mark} {t t' : List Event} {v v' : Json}

theorem append (h : Course ranks key m t m') (h' : Course ranks key m' t' m'') : Course ranks key m (t ++ t') m'' := by
  induction h with
  | done m => exact h'
  | spare he _ ih => exact .spare he (ih h')
  | begin hphase hsound _ ih => exact .begin hphase hsound (ih h')
  | advance hphase hbaseline hsound _ ih => exact .advance hphase hbaseline hsound (ih h')
  | remove _ ih => exact .remove (ih h')

theorem split (h : Course ranks key m (t ++ t') m'') : ∃ m', Course ranks key m t m' ∧ Course ranks key m' t' m'' := by
  induction t generalizing m with
  | nil => exact ⟨m, .done m, h⟩
  | cons e t ih =>
    cases h with
    | spare he ht =>
      obtain ⟨m', h1, h2⟩ := ih ht
      exact ⟨m', .spare he h1, h2⟩
    | begin hphase hsound ht =>
      obtain ⟨m', h1, h2⟩ := ih ht
      exact ⟨m', .begin hphase hsound h1, h2⟩
    | advance hphase hbaseline hsound ht =>
      obtain ⟨m', h1, h2⟩ := ih ht
      exact ⟨m', .advance hphase hbaseline hsound h1, h2⟩
    | remove ht =>
      obtain ⟨m', h1, h2⟩ := ih ht
      exact ⟨m', .remove h1, h2⟩

/-- A document that is stored is one of a mark that a run may leave. -/
theorem of_put (h : Course ranks key m (.access (.put key v) true :: t) m') :
    (ranks.told v).Sound ∧ Course ranks key (some (ranks.told v)) t m' ∧
      (m = none → (ranks.told v).phase = .baselineRecorded) ∧
      ∀ mark, m = some mark → mark.phase.place < (ranks.told v).phase.place ∧ (ranks.told v).baseline = mark.baseline := by
  cases h with
  | spare he ht =>
    have := he.1
    simp [Event.stored?] at this
  | begin hphase hsound ht =>
    refine ⟨hsound, ht, fun _ => hphase, ?_⟩
    intro mark hm
    cases hm
  | advance hphase hbaseline hsound ht =>
    refine ⟨hsound, ht, ?_, ?_⟩
    · intro hm
      cases hm
    · intro mark hm
      cases hm
      exact ⟨hphase, hbaseline⟩

theorem of_remove (h : Course ranks key m [.access (.delete key) true] m') : m' = none := by
  cases h with
  | spare he _ => exact absurd rfl he.2
  | remove ht =>
    cases ht
    rfl

/-- While the document is not removed its phase does not go back and its baseline stays. -/
theorem of_not_removed {mark : Mark} (h : Course ranks key (some mark) t m')
    (ht : Event.access (.delete key) true ∉ t) :
    ∃ mark', m' = some mark' ∧ mark.phase.place ≤ mark'.phase.place ∧ mark'.baseline = mark.baseline := by
  induction t generalizing mark with
  | nil =>
    cases h
    exact ⟨mark, rfl, Nat.le_refl _, rfl⟩
  | cons e t ih =>
    have hrest : Event.access (.delete key) true ∉ t := fun hmem => ht (List.mem_cons_of_mem _ hmem)
    cases h with
    | spare _ h => exact ih h hrest
    | advance hphase hbaseline _ h =>
      obtain ⟨mark', hm', hplace, hb⟩ := ih h hrest
      exact ⟨mark', hm', by omega, hb.trans hbaseline⟩
    | remove _ => exact absurd List.mem_cons_self ht

/-- While no document is stored there is none. -/
theorem of_not_stored (h : Course ranks key none t m') (ht : ∀ e ∈ t, e.stored? key = none) : m' = none := by
  induction t with
  | nil =>
    cases h
    rfl
  | cons e t ih =>
    have ht' := fun e' he' => ht e' (List.mem_cons_of_mem _ he')
    cases h with
    | spare _ h => exact ih h ht'
    | begin _ _ _ =>
      have := ht _ List.mem_cons_self
      simp [Event.stored?] at this
    | remove h => exact ih h ht'

theorem not_spares_put (v : Json) : ¬ Event.Spares key (.access (.put key v) true) := by
  rintro ⟨hstored, -⟩
  simp [Event.stored?] at hstored

/-- What has happened to a document tells what is known of it. -/
theorem unique (h : Course ranks key m t m') (h' : Course ranks key m t m'') : m' = m'' := by
  induction h with
  | done m =>
    cases h'
    rfl
  | spare he _ ih =>
    cases h' with
    | spare _ ht => exact ih ht
    | begin => exact absurd he (not_spares_put _)
    | advance => exact absurd he (not_spares_put _)
    | remove => exact absurd rfl he.2
  | begin _ _ _ ih =>
    cases h' with
    | spare he _ => exact absurd he (not_spares_put _)
    | begin _ _ ht => exact ih ht
  | advance _ _ _ _ ih =>
    cases h' with
    | spare he _ => exact absurd he (not_spares_put _)
    | advance _ _ _ ht => exact ih ht
  | remove _ ih =>
    cases h' with
    | spare he _ => exact absurd rfl he.2
    | remove ht => exact ih ht

/-- What is newly known of a document that was not removed was stored. -/
theorem exists_stored {mark mark' : Mark} (h : Course ranks key (some mark) t (some mark'))
    (ht : Event.access (.delete key) true ∉ t) (hne : mark ≠ mark') :
    ∃ v, Event.access (.put key v) true ∈ t ∧ ranks.told v = mark' := by
  induction t generalizing mark with
  | nil =>
    cases h
    exact absurd rfl hne
  | cons e t ih =>
    have hrest : Event.access (.delete key) true ∉ t := fun hmem => ht (List.mem_cons_of_mem _ hmem)
    cases h with
    | spare _ h =>
      obtain ⟨v, hv, htold⟩ := ih h hrest hne
      exact ⟨v, List.mem_cons_of_mem _ hv, htold⟩
    | @advance _ document _ _ _ _ _ h =>
      by_cases hlast : ranks.told document = mark'
      · exact ⟨document, List.mem_cons_self, hlast⟩
      · obtain ⟨v, hv, htold⟩ := ih h hrest hlast
        exact ⟨v, List.mem_cons_of_mem _ hv, htold⟩
    | remove _ => exact absurd List.mem_cons_self ht

end Course

/-! ## Runs -/

namespace Run

variable {σ : Type} [Host σ] (r : Run σ)

def outcome : Except Panic Outcome := (r.upgrade.step.body r.before).1

/-- The world it ends in. -/
def after : World σ := (r.upgrade.step.body r.before).2

/-- What it did. -/
def trace : List Event := r.after.since r.before

/-- The stage with which it goes on after its first phase, if it comes to that. -/
def stage? : Option DatabaseUpgrade.Stage := (r.upgrade.opening r.before).1.toOption

/-- A run over the document of a key, whose clock stays in the calendar and whose orchestrator counts in numbers of the
width in which they are kept. -/
structure Regular (ranks : PhaseRanks DatabasePhase) (key : String) : Prop where
  registry : ∃ endpoint, r.upgrade.registry = .shared endpoint
  ranks : r.upgrade.ranks = ranks
  key : r.upgrade.settings.stateKey = key
  fits : ∀ app, r.upgrade.firstFound r.before = some app → app.baseline.Fits
  dates : ∀ i, r.before.Shows r.after i → i.InCalendar

end Run

/-- Runs over the document of a key, of which the first finds what is given and each of the others what the run before
left. -/
inductive History {σ : Type} [Host σ] (ranks : PhaseRanks DatabasePhase) (key : String) :
    Option Json → List (Run σ) → Prop
  | nil (document : Option Json) : History ranks key document []
  | cons {document : Option Json} {r : Run σ} {rs : List (Run σ)} (hregular : r.Regular ranks key)
    (hfound : r.before.store.get? key = document) (hrest : History ranks key (r.after.store.get? key) rs) :
    History ranks key document (r :: rs)

/-! ## A run keeps the document on its course -/

/-- What is known of an upgrade is what its document tells. -/
def Marks (ranks : PhaseRanks DatabasePhase) (document : Option Json) : Option Mark → Prop
  | none => document = none
  | some m => ∃ v, document = some v ∧ ranks.told v = m ∧ m.Sound

section

variable {ranks : PhaseRanks DatabasePhase} {key : String} {m m' : Option Mark} {t : List Event}

/-- On its course the document is the one that the mark speaks of. -/
theorem Course.marks (h : Course ranks key m t m') {store : Table Json} (hm : Marks ranks (store.get? key) m) :
    Marks ranks ((Store.replay store t).get? key) m' := by
  induction h generalizing store with
  | done m => exact hm
  | spare he _ ih =>
    refine ih ?_
    rw [Event.get?_applyTo he.2, he.1, Option.none_or]
    exact hm
  | begin _ hsound _ ih => exact ih ⟨_, Table.get?_insert_self _ _ _, rfl, hsound⟩
  | advance _ _ hsound _ ih => exact ih ⟨_, Table.get?_insert_self _ _ _, rfl, hsound⟩
  | remove _ ih => exact ih (Table.get?_erase_self _ _)

/-- Things done that change nothing are beside the course. -/
theorem Course.of_changesOf (h : Course ranks key m (Event.changesOf t) m') : Course ranks key m t m' := by
  induction t generalizing m with
  | nil => exact h
  | cons e t ih =>
    by_cases he : e.changes
    · have hcons : Event.changesOf (e :: t) = e :: Event.changesOf t := List.filter_cons_of_pos he
      rw [hcons] at h
      cases h with
      | spare hspares ht => exact .spare hspares (ih ht)
      | begin hphase hsound ht => exact .begin hphase hsound (ih ht)
      | advance hphase hbaseline hsound ht => exact .advance hphase hbaseline hsound (ih ht)
      | remove ht => exact .remove (ih ht)
    · have hquiet : e.changes = false := Bool.not_eq_true _ ▸ he
      refine .spare ⟨Event.stored?_eq_none key hquiet, ?_⟩ (ih ?_)
      · rintro rfl
        cases hquiet
      · rwa [Event.changesOf, List.filter_cons_of_neg he] at h

namespace DatabaseUpgrade

variable {u : DatabaseUpgrade} {b : Baseline} {D : Instant → Prop} {ms : List Move} {es : List Event}

theorem told_record (hr : DatabasePhase.ranks? = some ranks) (hb : b.Fits) {date : Instant} (hdate : date.InCalendar)
    (k : DatabasePhase) (who : String) : ranks.told (record b k date who) = ⟨k, b⟩ := by
  rw [PhaseRanks.told, interpret_record hr hb hdate]

/-- Moves to later phases are the course of a document that is there. -/
theorem Follows.course (h : u.Follows b D ms es) (hr : DatabasePhase.ranks? = some ranks)
    (hD : ∀ i, D i → i.InCalendar) (hb : b.Fits) (hscale : b.scale.isSome) {p : DatabasePhase}
    (hrises : (ms.filterMap Move.noted?).Pairwise (·.place < ·.place))
    (hafter : ∀ k ∈ ms.filterMap Move.noted?, p.place < k.place) :
    ∃ k, Course ranks u.settings.stateKey (some ⟨p, b⟩) es (some ⟨k, b⟩) := by
  induction h generalizing p with
  | nil => exact ⟨p, .done _⟩
  | @cons m e ms es hm _ ih =>
    cases m with
    | call k =>
      obtain ⟨c, -, rfl⟩ := hm
      rw [List.filterMap_cons_none rfl] at hrises hafter
      obtain ⟨k', hk'⟩ := ih hrises hafter
      exact ⟨k', .spare ⟨rfl, by simp⟩ hk'⟩
    | note k =>
      obtain ⟨date, who, hdate, rfl⟩ := hm
      have hnoted : Move.noted? (.note k) = some k := rfl
      rw [List.filterMap_cons_some hnoted] at hrises hafter
      have hpk : p.place < k.place := hafter k List.mem_cons_self
      obtain ⟨k', hk'⟩ := ih hrises.of_cons fun j hj => List.rel_of_pairwise_cons hrises hj
      have htold := told_record hr hb (hD _ hdate) k who
      have hstarted : k ≠ .start := by
        rintro rfl
        have : DatabasePhase.start.place = 0 := rfl
        omega
      refine ⟨k', .advance (m := ⟨p, b⟩) ?_ ?_ ?_ ?_⟩
      · rw [htold]
        exact hpk
      · rw [htold]
      · rw [htold]
        exact ⟨hstarted, hscale, hb⟩
      · rw [htold]
        exact hk'

/-- The moves of a run that finds nothing noted begin the course of a document. -/
theorem Follows.course_start (h : u.Follows b D ms es) (hr : DatabasePhase.ranks? = some ranks)
    (hD : ∀ i, D i → i.InCalendar) (hms : ms <+: DatabasePhase.start.moves)
    (hb : ms ≠ [] → b.Fits ∧ b.scale.isSome) : ∃ m, Course ranks u.settings.stateKey none es m := by
  have hmoves : DatabasePhase.start.moves = .note .baselineRecorded :: DatabasePhase.baselineRecorded.moves := rfl
  rw [hmoves] at hms
  cases h with
  | nil => exact ⟨none, .done none⟩
  | @cons m e ms es hm h =>
    obtain ⟨rfl, hrest⟩ := List.cons_prefix_cons.mp hms
    obtain ⟨hfits, hscale⟩ := hb (List.cons_ne_nil _ _)
    obtain ⟨date, who, hdate, rfl⟩ := hm
    have hnoted := DatabasePhase.noted_prefix hrest
    obtain ⟨k, hk⟩ := Follows.course h hr hD hfits hscale (p := .baselineRecorded)
      (DatabasePhase.ahead_rises _ |>.sublist hnoted.sublist)
      fun k hk => DatabasePhase.mem_ahead.mp (hnoted.subset hk)
    have htold := told_record hr hfits (hD _ hdate) .baselineRecorded who
    refine ⟨some ⟨k, b⟩, .begin ?_ ?_ ?_⟩
    · rw [htold]
    · rw [htold]
      exact ⟨(fun h => nomatch h), hscale, hfits⟩
    · rwa [htold]

end DatabaseUpgrade

namespace Run

open DatabaseUpgrade (told_record)

variable {σ : Type} [Host σ] {r : Run σ}

/-- A run ends where its upgrade does. -/
theorem after_eq (r : Run σ) : r.after = (r.upgrade.upgrade r.before).2 := by
  rw [after, DatabaseUpgrade.step_body]

/-- How a run ends, told of the trace that its log shows. -/
theorem Regular.ends (h : r.Regular ranks key) (hr : DatabasePhase.ranks? = some ranks) :
    r.before.Leads r.trace r.after ∧ ∃ b ms es,
      r.upgrade.RunEnds r.before (r.upgrade.upgrade r.before).1 r.trace r.after b ms es := by
  obtain ⟨endpoint, hreg⟩ := h.registry
  obtain ⟨t, hl, hends⟩ := DatabaseUpgrade.upgrade_ends hreg (h.ranks ▸ hr) r.before
  rw [← after_eq] at hl hends
  have htrace : r.trace = t := hl.since_eq
  rw [htrace]
  exact ⟨hl, hends⟩

/-- The outcome of a run is that of its upgrade. -/
theorem outcome_eq : r.outcome = .ok (Step.reported (r.upgrade.upgrade r.before).1) := by
  rw [outcome, DatabaseUpgrade.step_body]

theorem Regular.noted_of_none (h : r.Regular ranks key) (hr : DatabasePhase.ranks? = some ranks)
    (hm : r.before.store.get? key = none) : r.upgrade.noted r.before = (.start, .unknown) := by
  rw [DatabaseUpgrade.noted, h.key, hm, h.ranks, ← DatabasePhase.initial_eq hr]
  rfl

theorem Regular.noted_of_some (h : r.Regular ranks key) {mark : Mark}
    (hm : Marks ranks (r.before.store.get? key) (some mark)) :
    r.upgrade.noted r.before = (mark.phase, mark.baseline) ∧ mark.Sound := by
  obtain ⟨v, hv, rfl, hsound⟩ := hm
  refine ⟨?_, hsound⟩
  rw [DatabaseUpgrade.noted, h.key, hv, h.ranks]
  rfl

section Ends

variable {o : Except Fault Outcome} {b : Baseline} {ms : List Move} {es : List Event}

/-- As soon as a run makes a move, the baseline that it goes by fits and has a scale. -/
theorem Regular.baseline_sound (h : r.Regular ranks key) (hr : DatabasePhase.ranks? = some ranks)
    (hm : Marks ranks (r.before.store.get? key) m) (hends : r.upgrade.RunEnds r.before o r.trace r.after b ms es)
    (hms : ms ≠ []) : b.Fits ∧ b.scale.isSome := by
  cases m with
  | none =>
    obtain ⟨app, happ, rfl⟩ := hends.origin_start (by rw [h.noted_of_none hr hm]) hms
    exact ⟨h.fits app happ, rfl⟩
  | some mark =>
    obtain ⟨hnoted, hsound⟩ := h.noted_of_some hm
    have hb := hends.origin_later (by rw [hnoted]; exact hsound.started)
    rw [hnoted] at hb
    subst hb
    exact ⟨hsound.fits, hsound.scale⟩

/-- The moves of a run keep the document on its course. -/
theorem Regular.course_moves (h : r.Regular ranks key) (hr : DatabasePhase.ranks? = some ranks)
    (hm : Marks ranks (r.before.store.get? key) m) (hends : r.upgrade.RunEnds r.before o r.trace r.after b ms es) :
    ∃ m', Course ranks key m es m' := by
  have hsound := h.baseline_sound hr hm hends
  have hprefix := hends.prefix_moves
  have hfollows := hends.follows
  rw [← h.key]
  cases m with
  | none =>
    rw [h.noted_of_none hr hm] at hprefix
    exact hfollows.course_start hr h.dates hprefix hsound
  | some mark =>
    obtain ⟨hnoted, hmark⟩ := h.noted_of_some hm
    have hb := hends.origin_later (by rw [hnoted]; exact hmark.started)
    rw [hnoted] at hb hprefix
    subst hb
    have hahead := DatabasePhase.noted_prefix hprefix
    obtain ⟨k, hk⟩ := hfollows.course hr h.dates hmark.fits hmark.scale (p := mark.phase)
      (mark.phase.ahead_rises.sublist hahead.sublist) fun k hk => DatabasePhase.mem_ahead.mp (hahead.subset hk)
    exact ⟨_, hk⟩

end Ends

/-- A run keeps the document on its course. -/
theorem Regular.course (h : r.Regular ranks key) (hr : DatabasePhase.ranks? = some ranks)
    (hm : Marks ranks (r.before.store.get? key) m) : ∃ m', Course ranks key m r.trace m' := by
  obtain ⟨-, b, ms, es, hends⟩ := h.ends hr
  obtain ⟨m', hcourse⟩ := h.course_moves hr hm hends
  -- The removal after the moves does not lead off the course.
  have hall : ∃ m', Course ranks key m (Event.changesOf r.trace) m' := by
    rcases hends.ends with ⟨-, ht⟩ | ⟨-, ht | ⟨ht, -⟩⟩
    · exact ⟨m', by rwa [ht]⟩
    · rw [ht, h.key]
      exact ⟨none, hcourse.append (.remove (.done none))⟩
    · exact ⟨m', by rwa [ht]⟩
  obtain ⟨m', hcourse⟩ := hall
  exact ⟨m', hcourse.of_changesOf⟩

/-- The document of the first phase tells of the application that the run has found. -/
theorem Regular.baseline_found (h : r.Regular ranks key) (hr : DatabasePhase.ranks? = some ranks)
    (hm : Marks ranks (r.before.store.get? key) m) {v : Json} (hv : Event.access (.put key v) true ∈ r.trace)
    (hphase : (ranks.told v).phase = .baselineRecorded) :
    ∃ app, r.upgrade.firstFound r.before = some app ∧ (ranks.told v).baseline = app.baseline := by
  obtain ⟨-, b, ms, es, hends⟩ := h.ends hr
  have hstored : v ∈ es.filterMap (Event.stored? r.upgrade.settings.stateKey) := by
    rw [← hends.filterMap_eq (fun _ he => Event.stored?_eq_none _ he) fun _ => rfl]
    exact List.mem_filterMap.mpr ⟨_, hv, if_pos h.key.symm⟩
  obtain ⟨k, hk, date, who, hdate, rfl⟩ := hends.follows.exists_note hstored
  have hms : ms ≠ [] := by
    rintro rfl
    cases hk
  obtain ⟨hfits, -⟩ := h.baseline_sound hr hm hends hms
  rw [told_record hr hfits (h.dates _ hdate)] at hphase ⊢
  -- Only a run that finds nothing noted comes to note the first phase.
  have hstart : (r.upgrade.noted r.before).1 = .start := by
    have hplace := DatabasePhase.mem_ahead.mp ((DatabasePhase.noted_prefix hends.prefix_moves).subset hk)
    have hone : DatabasePhase.baselineRecorded.place = 1 := rfl
    rw [← DatabasePhase.place_eq_zero]
    rw [show k = .baselineRecorded from hphase, hone] at hplace
    omega
  exact hends.origin_start hstart hms

/-- The stage with which a run goes on has a number of units. -/
theorem Regular.scale_known (h : r.Regular ranks key) (hr : DatabasePhase.ranks? = some ranks)
    (hm : Marks ranks (r.before.store.get? key) m) {s : DatabaseUpgrade.Stage} (hs : r.stage? = some s) :
    s.baseline.scale.isSome := by
  have hnoted : (r.upgrade.noted r.before).1 ≠ .start → (r.upgrade.noted r.before).2.scale.isSome := by
    intro hstart
    cases m with
    | none => exact absurd (by rw [h.noted_of_none hr hm]) hstart
    | some mark =>
      obtain ⟨hnoted, hsound⟩ := h.noted_of_some hm
      rw [hnoted]
      exact hsound.scale
  obtain ⟨endpoint, hreg⟩ := h.registry
  obtain ⟨t, -, hends⟩ := DatabaseUpgrade.opening_ends hreg (h.ranks ▸ hr) r.before hnoted
  refine hends s ?_
  unfold stage? at hs
  cases hopening : (r.upgrade.opening r.before).1 with
  | ok s' =>
    rw [hopening] at hs
    cases hs
    rfl
  | error f =>
    rw [hopening] at hs
    cases hs

/-- A run that does not go on after its first phase has failed in it. -/
theorem failed_of_stageless (r : Run σ) (h : r.stage? = none) : r.outcome.map Outcome.kind = .ok .failed := by
  rw [outcome_eq, DatabaseUpgrade.upgrade_eq_opening, Act.bind_apply]
  unfold stage? at h
  rcases hopening : r.upgrade.opening r.before with ⟨f | s, w⟩
  · rfl
  · rw [hopening] at h
    cases h

/-- Only a run that completes removes the document. -/
theorem Regular.completed_of_removed (h : r.Regular ranks key) (hr : DatabasePhase.ranks? = some ranks)
    (ht : Event.access (.delete key) true ∈ r.trace) : r.outcome.map Outcome.kind = .ok .completed := by
  obtain ⟨-, b, ms, es, hends⟩ := h.ends hr
  rcases hends.ends with ⟨-, hsame⟩ | ⟨⟨o, ho, hkind⟩, -⟩
  · exact absurd ht (hends.not_removed hsame key)
  · rw [outcome_eq, ho]
    exact congrArg Except.ok hkind

/-- A run that completes leaves no document. -/
theorem Regular.absent_of_completed (h : r.Regular ranks key) (hr : DatabasePhase.ranks? = some ranks)
    (candid : Host.Candid σ) (hkind : r.outcome.map Outcome.kind = .ok .completed) : r.after.store.get? key = none := by
  obtain ⟨hl, b, ms, es, hends⟩ := h.ends hr
  rw [outcome_eq] at hkind
  cases ho : (r.upgrade.upgrade r.before).1 with
  | error f =>
    rw [ho] at hkind
    cases hkind
  | ok o =>
    rw [ho] at hends
    rw [← h.key]
    exact hends.absent hl candid

end Run

/-! ## Histories -/

section

variable {σ : Type} [Host σ] {rs : List (Run σ)} {document : Option Json}

/-- The course goes on through all runs of a history, and each of them finds what its document tells. -/
theorem History.course (h : History ranks key document rs) (hr : DatabasePhase.ranks? = some ranks)
    (hm : Marks ranks document m) : (∃ m', Course ranks key m (rs.flatMap Run.trace) m') ∧
      ∀ r ∈ rs, r.Regular ranks key ∧ ∃ m, Marks ranks (r.before.store.get? key) m := by
  induction h generalizing m with
  | nil document => exact ⟨⟨m, .done m⟩, fun r hr => nomatch hr⟩
  | @cons document r rs hregular hfound _ ih =>
    subst hfound
    obtain ⟨m', hcourse⟩ := hregular.course hr hm
    have hm' : Marks ranks (r.after.store.get? key) m' := by
      rw [(hregular.ends hr).1.store]
      exact hcourse.marks hm
    obtain ⟨⟨m'', hrest⟩, hall⟩ := ih hm'
    refine ⟨⟨m'', hcourse.append hrest⟩, fun r' hr' => ?_⟩
    rcases List.mem_cons.mp hr' with rfl | hr'
    · exact ⟨hregular, m, hm⟩
    · exact hall r' hr'

/-- Whatever a history does is done by one of its runs, and what is known of the document then is what that run finds. -/
theorem History.at (h : History ranks key document rs) (hr : DatabasePhase.ranks? = some ranks)
    (hm : Marks ranks document m) {t₁ t₂ : List Event} {e : Event} (ht : rs.flatMap Run.trace = t₁ ++ e :: t₂) :
    ∃ r ∈ rs, ∃ before after m₁, r.trace = before ++ e :: after ∧ Course ranks key m t₁ m₁ ∧
      Marks ranks ((Store.replay r.before.store before).get? key) m₁ := by
  induction h generalizing m t₁ with
  | nil document => simp at ht
  | @cons document r rs hregular hfound _ ih =>
    subst hfound
    obtain ⟨m', hcourse⟩ := hregular.course hr hm
    -- It was done by a later run, or by the first.
    have hlater {t : List Event} (ht₁ : t₁ = r.trace ++ t) (hrest : rs.flatMap Run.trace = t ++ e :: t₂) :
        ∃ r' ∈ r :: rs, ∃ before after m₁, r'.trace = before ++ e :: after ∧ Course ranks key m t₁ m₁ ∧
          Marks ranks ((Store.replay r'.before.store before).get? key) m₁ := by
      have hm' : Marks ranks (r.after.store.get? key) m' := by
        rw [(hregular.ends hr).1.store]
        exact hcourse.marks hm
      obtain ⟨r', hr', before, after, m₁, htrace, hcourse', hm₁⟩ := ih hm' hrest
      exact ⟨r', List.mem_cons_of_mem _ hr', before, after, m₁, htrace, ht₁ ▸ hcourse.append hcourse', hm₁⟩
    rw [List.flatMap_cons] at ht
    rcases List.append_eq_append_iff.mp ht with ⟨t, ht₁, hrest⟩ | ⟨t, htrace, hrest⟩
    · exact hlater ht₁ hrest
    · cases t with
      | nil =>
        rw [List.append_nil] at htrace
        exact hlater (t := []) (by rw [htrace, List.append_nil]) hrest.symm
      | cons e' after =>
        obtain ⟨rfl, -⟩ := List.cons.inj hrest
        rw [htrace] at hcourse
        obtain ⟨m₁, hbefore, -⟩ := hcourse.split
        exact ⟨r, List.mem_cons_self, t₁, after, m₁, htrace, hbefore, hbefore.marks hm⟩

/-- What holds of the document of a key through a row of runs. -/
structure Kept (ranks : PhaseRanks DatabasePhase) (key : String) (rs : List (Run σ)) : Prop where
  /-- Of two documents with no removal between them the later has the higher phase and the same baseline. -/
  rising : ∀ t₁ v t₂ v' t₃,
    rs.flatMap Run.trace = t₁ ++ .access (.put key v) true :: (t₂ ++ .access (.put key v') true :: t₃) →
    Event.access (.delete key) true ∉ t₂ →
    (ranks.told v).phase.place < (ranks.told v').phase.place ∧ (ranks.told v').baseline = (ranks.told v).baseline
  /-- The first document, and the first after a removal, is that of the first phase. -/
  first : ∀ t₁ t₂ v t₃, rs.flatMap Run.trace = t₁ ++ (t₂ ++ .access (.put key v) true :: t₃) →
    (t₁ = [] ∨ t₁.getLast? = some (.access (.delete key) true)) → (∀ e ∈ t₂, e.stored? key = none) →
    (ranks.told v).phase = .baselineRecorded
  /-- It has the revision and the number of units of the application that was found by the run that stored it. -/
  baseline_found : ∀ r ∈ rs, ∀ v, Event.access (.put key v) true ∈ r.trace →
    (ranks.told v).phase = .baselineRecorded →
    ∃ app, r.upgrade.firstFound r.before = some app ∧ (ranks.told v).baseline = app.baseline
  /-- Every document has a number of units. -/
  scale_stored : ∀ v, Event.access (.put key v) true ∈ rs.flatMap Run.trace → (ranks.told v).baseline.scale.isSome
  /-- No run misses it: the stage with which a run goes on after its first phase has a number of units. -/
  scale_known : ∀ r ∈ rs, ∀ s, r.stage? = some s → s.baseline.scale.isSome
  /-- A run that does not go on after its first phase fails. -/
  stageless : ∀ r ∈ rs, r.stage? = none → r.outcome.map Outcome.kind = .ok .failed
  /-- Only a run that completes removes the document. -/
  removed : ∀ r ∈ rs, Event.access (.delete key) true ∈ r.trace → r.outcome.map Outcome.kind = .ok .completed
  /-- A run that completes leaves no document. -/
  completed : Host.Candid σ → ∀ r ∈ rs, r.outcome.map Outcome.kind = .ok .completed → r.after.store.get? key = none

/-- From the first document until its removal the phases of an upgrade rise and its baseline stays, over any number of
runs and whatever fails in them. -/
theorem history_kept (hr : DatabasePhase.ranks? = some ranks) (h : History ranks key none rs) :
    Kept ranks key rs := by
  obtain ⟨⟨m', hcourse⟩, hall⟩ := h.course hr (m := none) rfl
  constructor
  case rising =>
    intro t₁ v t₂ v' t₃ ht hkept
    rw [ht] at hcourse
    obtain ⟨m₁, -, hv⟩ := hcourse.split
    obtain ⟨-, hrest, -, -⟩ := hv.of_put
    obtain ⟨m₂, hbetween, hv'⟩ := hrest.split
    obtain ⟨mark, rfl, hplace, hbaseline⟩ := hbetween.of_not_removed hkept
    obtain ⟨-, -, -, hstep⟩ := hv'.of_put
    obtain ⟨hlt, hsame⟩ := hstep mark rfl
    exact ⟨by omega, hsame.trans hbaseline⟩
  case first =>
    intro t₁ t₂ v t₃ ht hstart hnone
    rw [ht] at hcourse
    obtain ⟨m₁, hbefore, hrest⟩ := hcourse.split
    have hm₁ : m₁ = none := by
      rcases hstart with rfl | hlast
      · cases hbefore
        rfl
      · obtain ⟨t, rfl⟩ := List.getLast?_eq_some_iff.mp hlast
        obtain ⟨m₀, -, hremove⟩ := hbefore.split
        exact hremove.of_remove
    subst hm₁
    obtain ⟨m₂, hbetween, hv⟩ := hrest.split
    exact hv.of_put.2.2.1 (hbetween.of_not_stored hnone)
  case baseline_found =>
    intro r hr' v hv hphase
    obtain ⟨hregular, m, hm⟩ := hall r hr'
    exact hregular.baseline_found hr hm hv hphase
  case scale_stored =>
    intro v hv
    obtain ⟨t₁, t₂, ht⟩ := List.append_of_mem hv
    rw [ht] at hcourse
    obtain ⟨m₁, -, hput⟩ := hcourse.split
    exact hput.of_put.1.scale
  case scale_known =>
    intro r hr' s hs
    obtain ⟨hregular, m, hm⟩ := hall r hr'
    exact hregular.scale_known hr hm hs
  case stageless => exact fun r _ hnone => r.failed_of_stageless hnone
  case removed => exact fun r hr' ht => (hall r hr').1.completed_of_removed hr ht
  case completed => exact fun candid r hr' hkind => (hall r hr').1.absent_of_completed hr candid hkind

/-- Whether the numbers of an application are of the width in which they are kept. -/
def Application.fits (app : Application) : Bool :=
  app.revision.all (· < UInt64.size) && app.scale < UInt32.size

/-- A run with default settings is regular where no time passes. -/
theorem Run.regular_standard {w : World σ} (hfits : (DatabaseUpgrade.standard.firstFound w).all Application.fits)
    (hdate : w.date.InCalendar) (hnow : (Run.mk DatabaseUpgrade.standard w).after.now = w.now) :
    (Run.mk DatabaseUpgrade.standard w).Regular DatabaseUpgrade.standard.ranks
      DatabaseUpgrade.standard.settings.stateKey where
  registry := ⟨none, rfl⟩
  ranks := rfl
  key := rfl
  fits := by
    intro app happ
    have happ : DatabaseUpgrade.standard.firstFound w = some app := happ
    rw [happ, Option.all_some, Application.fits, Bool.and_eq_true] at hfits
    refine ⟨fun n hn => ?_, fun n hn => ?_⟩
    · have hn : app.revision = some n := hn
      rw [hn] at hfits
      exact of_decide_eq_true hfits.1
    · cases hn
      exact of_decide_eq_true hfits.2
  dates := by
    rintro i ⟨d, hbefore, hafter, rfl⟩
    rw [hnow] at hafter
    rw [Nat.le_antisymm hafter hbefore]
    exact hdate

/-- Two runs on a host for which everything goes well. -/
def Obliging.runs : List (Run Obliging) :=
  [⟨.standard, Obliging.world "mysql"⟩, ⟨.standard, (Run.mk .standard (Obliging.world "mysql")).after⟩]

theorem history_kept_standard : DatabasePhase.ranks? = some DatabaseUpgrade.standard.ranks ∧
    History DatabaseUpgrade.standard.ranks "mysql_k8s_upgrade_state" none Obliging.runs ∧
    Kept DatabaseUpgrade.standard.ranks "mysql_k8s_upgrade_state" Obliging.runs := by
  have hhistory : History DatabaseUpgrade.standard.ranks "mysql_k8s_upgrade_state" none Obliging.runs := by
    refine .cons (Run.regular_standard (by decide +kernel) ?_ (by decide +kernel)) (by decide +kernel)
      (.cons (Run.regular_standard (by decide +kernel) ?_ (by decide +kernel)) rfl (.nil _))
    · exact ⟨by decide +kernel, by decide +kernel, by decide +kernel, by decide +kernel⟩
    · exact ⟨by decide +kernel, by decide +kernel, by decide +kernel, by decide +kernel⟩
  exact ⟨DatabaseUpgrade.ranks_standard, hhistory, history_kept DatabaseUpgrade.ranks_standard hhistory⟩

end

end

end Rollout
