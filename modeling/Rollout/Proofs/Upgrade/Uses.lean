import Mathlib.Logic.Function.Basic
import Rollout.Proofs.Obliging
import Rollout.Proofs.Upgrade.Ranks
import Rollout.Proofs.Upgrade.Record
import Rollout.Proofs.Upgrade.Resume
import Rollout.Proofs.Upgrade.Tracker

/-!
# Rollout.Proofs.Upgrade.Uses — trackers that keep the progress of one procedure

Several trackers may keep the progress of a procedure under one key.  Each of their calls succeeds or has no effect, so
what stands under the key is what was noted last, whoever noted it, and a tracker that loads it is where that tracker
was.  A document that no tracker wrote is taken up as far as it tells of progress.

* `Tracker.Use`, `Tracker.use`: the calls, and what comes of them.
* `Tracker.TakesUp`: what is taken up from any document.
* `Tracker.Abides`: the laws of a single call.
* `Tracker.uses`, `Tracker.left`: calls to several trackers, and what they leave.
* `Tracker.uses_abide`: each of any calls abides by the laws, and what was noted last is found.
-/

namespace Rollout.Tracker

variable {P σ I : Type} [Host σ]

/-! ## Calls -/

/-- A call to a tracker. -/
inductive Use (P : Type)
  | load
  | advance (phase : P) (baseline : Baseline)
  | clear

/-- After a call that fails the caller holds the tracker as it was. -/
def kept (t : Tracker P) : Except Fault (Tracker P) × World σ → Except Fault (Option Baseline) × Tracker P × World σ
  | (.ok t', w') => (.ok none, t', w')
  | (.error f, w') => (.error f, t, w')

/-- What comes of a call: the baseline that was loaded or a fault, the tracker afterwards, and the world. -/
def use (t : Tracker P) (u : Use P) (w : World σ) : Except Fault (Option Baseline) × Tracker P × World σ :=
  match u with
  | .load => match t.load w with
    | (.ok (t', loaded), w') => (loaded.map some, t', w')
    | (.error f, w') => (.error f, t, w')
  | .advance phase b => t.kept (t.advance phase b w)
  | .clear => t.kept (t.clear w)

section Use

variable {t : Tracker P} {endpoint : Option String}

/-- A tracker takes up what is stored, or is back at the start if that cannot be read. -/
theorem use_load (hreg : t.registry = .shared endpoint) (w : World σ) : ∃ w',
    (t.use .load w = (.ok (some (interpret t.ranks (w.store.get? t.key)).2),
        { t with current := (interpret t.ranks (w.store.get? t.key)).1 }, w') ∧
      w.Leads [.access (.get t.key) true] w') ∨
    ∃ f, t.use .load w = (.error f, { t with current := t.ranks.initial }, w') ∧
      w.Leads [.access (.get t.key) false] w' ∧ (Host.refuse (.get t.key) w.host).1 = some f := by
  obtain ⟨events, hl, h⟩ := load_ends hreg w
  rcases hload : t.load w with ⟨r, w'⟩
  rw [hload] at hl h
  obtain ⟨rfl, rfl⟩ | ⟨f, rfl, rfl, hrefused⟩ := h
  · exact ⟨w', .inl ⟨by unfold use; rw [hload]; rfl, hl⟩⟩
  · exact ⟨w', .inr ⟨f, by unfold use; rw [hload]; rfl, hl, hrefused⟩⟩

theorem use_advance_back {phase : P} (h : t.ranks.rank phase < t.ranks.rank t.current) (b : Baseline) (w : World σ) :
    ∃ f, t.use (.advance phase b) w = (.error f, t, w) :=
  ⟨_, congrArg t.kept (advance_back h b w)⟩

/-- A phase that does not lie behind is noted, or nothing happens. -/
theorem use_advance (hreg : t.registry = .shared endpoint) {phase : P}
    (h : ¬ t.ranks.rank phase < t.ranks.rank t.current) (b : Baseline) (w : World σ) : ∃ w',
    (t.use (.advance phase b) w = (.ok none, { t with current := phase }, w') ∧
      w.Leads [.access (.put t.key (t.document phase b w)) true] w') ∨
    ∃ f, t.use (.advance phase b) w = (.error f, t, w') ∧
      w.Leads [.access (.put t.key (t.document phase b w)) false] w' := by
  obtain ⟨events, hl, h⟩ := advance_ends hreg h b w
  rcases hadvance : t.advance phase b w with ⟨r, w'⟩
  rw [hadvance] at hl h
  obtain ⟨rfl, rfl⟩ | ⟨f, rfl, rfl, -⟩ := h
  · exact ⟨w', .inl ⟨congrArg t.kept hadvance, hl⟩⟩
  · exact ⟨w', .inr ⟨f, congrArg t.kept hadvance, hl⟩⟩

/-- The progress is forgotten, or nothing happens. -/
theorem use_clear (hreg : t.registry = .shared endpoint) (w : World σ) : ∃ w',
    (t.use .clear w = (.ok none, { t with current := t.ranks.initial }, w') ∧
      (w.Leads [.access (.delete t.key) true] w' ∨
        w.Leads [.access (.delete t.key) false] w' ∧ (Host.Candid σ → w.store.get? t.key = none))) ∨
    ∃ f, t.use .clear w = (.error f, t, w') ∧ w.Leads [.access (.delete t.key) false] w' := by
  obtain ⟨events, hl, h⟩ := clear_ends hreg w
  rcases hclear : t.clear w with ⟨r, w'⟩
  rw [hclear] at hl h
  obtain ⟨rfl, rfl | ⟨rfl, hmissing⟩⟩ | ⟨f, rfl, rfl, -⟩ := h
  · exact ⟨w', .inl ⟨congrArg t.kept hclear, .inl hl⟩⟩
  · exact ⟨w', .inl ⟨congrArg t.kept hclear, .inr ⟨hl, hmissing⟩⟩⟩
  · exact ⟨w', .inr ⟨f, congrArg t.kept hclear, hl⟩⟩

end Use

/-! ## What is taken up -/

/-- The phase and the baseline that are taken up from what stands under the key of a tracker: those that a document tells
of, if it names a phase of the procedure; of a document that names another phase the baseline, at the first phase; and
nothing of any other. -/
inductive TakesUp (name : P → String) (sequence : List P) (initial : P) : Option Json → P → Baseline → Prop
  | known {doc : Json} {p : Progress} {phase : P} (htells : doc.Tells p) (hmem : phase ∈ sequence)
    (hname : name phase = p.phase) : TakesUp name sequence initial (some doc) phase p.baseline
  | unknown {doc : Json} {p : Progress} (htells : doc.Tells p) (hname : ∀ phase ∈ sequence, name phase ≠ p.phase) :
    TakesUp name sequence initial (some doc) initial p.baseline
  | untold {doc : Json} (huntold : ∀ p, ¬ doc.Tells p) : TakesUp name sequence initial (some doc) initial .unknown
  | absent : TakesUp name sequence initial none initial .unknown

variable {name : P → String} {sequence : List P} {ranks : PhaseRanks P}

/-- A document is taken up as far as it tells of progress. -/
theorem interpret_takesUp (hranks : PhaseRanks.build name sequence = some ranks) {doc : Option Json}
    (hsorted : ∀ j, doc = some j → j.sorted) :
    TakesUp name sequence ranks.initial doc (interpret ranks doc).1 (interpret ranks doc).2 := by
  cases doc with
  | none => exact .absent
  | some j =>
    unfold interpret
    rw [Option.map_some]
    cases hread : Progress.decoder.ofJson j with
    | error e =>
      refine .untold fun p htells => ?_
      rw [(Progress.decoder_ofJson_iff (hsorted j rfl)).mpr htells] at hread
      cases hread
    | ok p =>
      have htells : j.Tells p := (Progress.decoder_ofJson_iff (hsorted j rfl)).mp hread
      dsimp only
      cases hparse : ranks.parse p.phase with
      | some phase =>
        obtain ⟨hmem, hname⟩ := (PhaseRanks.parse_of_build hranks).mp hparse
        exact .known htells hmem hname
      | none => exact .unknown htells ((PhaseRanks.parse_eq_none_of_build hranks).mp hparse)

/-- A phase other than the first is taken up just if a document tells of it. -/
theorem TakesUp.phase_iff (hranks : PhaseRanks.build name sequence = some ranks) {initial phase phase' : P}
    {doc : Option Json} {b : Baseline} (h : TakesUp name sequence initial doc phase b) (hlater : phase' ≠ initial) :
    phase = phase' ↔ phase' ∈ sequence ∧ ∃ j p, doc = some j ∧ j.Tells p ∧ p.phase = name phase' := by
  constructor
  · rintro rfl
    cases h with
    | known htells hmem hname => exact ⟨hmem, _, _, rfl, htells, hname.symm⟩
    | _ => exact absurd rfl hlater
  · rintro ⟨hmem', j, p, rfl, htells', hname'⟩
    cases h with
    | known htells hmem hname =>
      cases htells.unique htells'
      exact PhaseRanks.eq_of_name hranks hmem hmem' (hname.trans hname')
    | unknown htells hnone =>
      cases htells.unique htells'
      exact absurd hname'.symm (hnone _ hmem')
    | untold huntold => exact absurd htells' (huntold p)

/-! ## The laws of a call -/

/-- What a fresh tracker finds under a key as long as the same document stands there as in `w`. -/
def Finds (registry : Registry) (key : String) (ranks : PhaseRanks P) (phase : P) (b : Baseline) (w : World σ) : Prop :=
  ∀ w' : World σ, w'.store.get? key = w.store.get? key → (Host.refuse (.get key) w'.host).1 = none →
    ∃ w'', (fresh registry key ranks).use .load w' = (.ok (some b), ⟨registry, key, ranks, phase⟩, w'')

/-- The laws of a call to a tracker. -/
structure Abides (name : P → String) (sequence : List P) (t : Tracker P) (w : World σ) : Prop where
  /-- There is no way back, and the registry is not asked. -/
  no_way_back : ∀ phase b, t.ranks.rank phase < t.ranks.rank t.current →
    ∃ f, t.use (.advance phase b) w = (.error f, t, w)
  /-- An advance that fails has no effect. -/
  not_advanced : ∀ phase b f t' w', t.use (.advance phase b) w = (.error f, t', w') → t' = t ∧ w'.store = w.store
  /-- A removal that fails has no effect. -/
  not_cleared : ∀ f t' w', t.use .clear w = (.error f, t', w') → t' = t ∧ w'.store = w.store
  /-- What was noted is what a fresh tracker finds. -/
  advanced : ∀ phase b o t' w', phase ∈ sequence → b.Fits → t.use (.advance phase b) w = (.ok o, t', w') →
    t' = { t with current := phase } ∧ Finds t.registry t.key t.ranks phase b w'
  /-- After a removal a fresh tracker finds nothing. -/
  cleared : ∀ o t' w', t.use .clear w = (.ok o, t', w') →
    t' = { t with current := t.ranks.initial } ∧
      (Host.Candid σ → Finds t.registry t.key t.ranks t.ranks.initial .unknown w')
  /-- Whatever document is stored, a tracker that can read it takes it up as far as it tells of progress. -/
  loaded : (Host.refuse (.get t.key) w.host).1 = none → ∃ phase b w',
    t.use .load w = (.ok (some b), { t with current := phase }, w') ∧ w'.store = w.store ∧
      TakesUp name sequence t.ranks.initial (w.store.get? t.key) phase b ∧
      ∀ phase', phase' ≠ t.ranks.initial → (phase = phase' ↔
        phase' ∈ sequence ∧ ∃ j p, w.store.get? t.key = some j ∧ j.Tells p ∧ p.phase = name phase')

section Laws

variable {registry : Registry} {endpoint : Option String} {key : String} {t : Tracker P}

/-- A fresh tracker finds what the document that stands there is taken up as. -/
theorem finds_of_interpret (hreg : registry = .shared endpoint) {phase : P} {b : Baseline} {w : World σ}
    (h : interpret ranks (w.store.get? key) = (phase, b)) : Finds registry key ranks phase b w := by
  intro w' hstands hgranted
  obtain ⟨w'', ⟨huse, -⟩ | ⟨f, -, -, hrefused⟩⟩ := use_load (t := fresh registry key ranks) hreg w'
  · refine ⟨w'', huse.trans ?_⟩
    have hsame : interpret (fresh registry key ranks).ranks (w'.store.get? (fresh registry key ranks).key) = (phase, b) := by
      rw [← h, ← hstands]
      rfl
    rw [hsame]
    rfl
  · cases hgranted.symm.trans hrefused

/-- What is noted of a phase is what a fresh tracker finds. -/
theorem finds_document (hreg : t.registry = .shared endpoint) (hranks : PhaseRanks.build name sequence = some t.ranks)
    {phase : P} (hmem : phase ∈ sequence) {b : Baseline} (hb : b.Fits) {w w' : World σ} (hdate : w.date.InCalendar)
    (h : w'.store.get? t.key = some (t.document phase b w)) : Finds t.registry t.key t.ranks phase b w' := by
  refine finds_of_interpret hreg ?_
  rw [h]
  refine interpret_toJson ((PhaseRanks.parse_of_build hranks).mpr ⟨hmem, ?_⟩) hb hdate w.holder
  rw [PhaseRanks.name_of_build hranks]

/-- Every call abides by the laws. -/
theorem abides (hreg : t.registry = .shared endpoint) (hranks : PhaseRanks.build name sequence = some t.ranks)
    {w : World σ} (hsorted : ∀ j, w.store.get? t.key = some j → j.sorted) (hdate : w.date.InCalendar) :
    Abides name sequence t w where
  no_way_back phase b h := use_advance_back h b w
  not_advanced phase b f t' w' huse := by
    by_cases hback : t.ranks.rank phase < t.ranks.rank t.current
    · obtain ⟨f', huse'⟩ := use_advance_back hback b w
      cases huse'.symm.trans huse
      exact ⟨rfl, rfl⟩
    · obtain ⟨w₁, ⟨huse', -⟩ | ⟨f', huse', hl⟩⟩ := use_advance hreg hback b w
      · cases huse'.symm.trans huse
      · cases huse'.symm.trans huse
        exact ⟨rfl, hl.store⟩
  not_cleared f t' w' huse := by
    obtain ⟨w₁, ⟨huse', -⟩ | ⟨f', huse', hl⟩⟩ := use_clear hreg w
    · cases huse'.symm.trans huse
    · cases huse'.symm.trans huse
      exact ⟨rfl, hl.store⟩
  advanced phase b o t' w' hmem hb huse := by
    by_cases hback : t.ranks.rank phase < t.ranks.rank t.current
    · obtain ⟨f', huse'⟩ := use_advance_back hback b w
      cases huse'.symm.trans huse
    · obtain ⟨w₁, ⟨huse', hl⟩ | ⟨f', huse', -⟩⟩ := use_advance hreg hback b w
      · cases huse'.symm.trans huse
        refine ⟨rfl, finds_document hreg hranks hmem hb hdate ?_⟩
        rw [hl.store]
        exact Table.get?_insert_self _ _ _
      · cases huse'.symm.trans huse
  cleared o t' w' huse := by
    obtain ⟨w₁, ⟨huse', hl⟩ | ⟨f', huse', -⟩⟩ := use_clear hreg w
    · cases huse'.symm.trans huse
      refine ⟨rfl, fun candid => finds_of_interpret hreg ?_⟩
      have habsent : w'.store.get? t.key = none := by
        rcases hl with hl | ⟨hl, hmissing⟩
        · rw [hl.store]
          exact Table.get?_erase_self _ _
        · rw [hl.store]
          exact hmissing candid
      rw [habsent]
      rfl
    · cases huse'.symm.trans huse
  loaded hgranted := by
    obtain ⟨w', ⟨huse, hl⟩ | ⟨f, -, -, hrefused⟩⟩ := use_load hreg w
    · have htakes := interpret_takesUp hranks hsorted
      exact ⟨_, _, w', huse, hl.store, htakes, fun phase' hlater => htakes.phase_iff hranks hlater⟩
    · cases hgranted.symm.trans hrefused

end Laws

/-! ## Calls to several trackers -/

/-- Calls, each after a pause and to one of several trackers: what came of each, the trackers, and the world. -/
def uses [DecidableEq I] (ts : I → Tracker P) : List (Span × I × Use P) → World σ →
    List (Use P × Except Fault (Option Baseline)) × (I → Tracker P) × World σ
  | [], w => ([], ts, w)
  | (pause, i, u) :: rest, w =>
    let (r, t, w) := (ts i).use u (w.later pause)
    let (journal, ts, w) := uses (Function.update ts i t) rest w
    ((u, r) :: journal, ts, w)

/-- What a call leaves if it succeeded: the phase and the baseline that were noted, or nothing. -/
def leaves : Use P × Except Fault (Option Baseline) → Option (Option (P × Baseline))
  | (.advance phase b, .ok _) => some (some (phase, b))
  | (.clear, .ok _) => some none
  | _ => none

/-- What calls leave: what the last one left that left anything. -/
def left (journal : List (Use P × Except Fault (Option Baseline))) : Option (Option (P × Baseline)) :=
  (journal.filterMap leaves).getLast?

variable (σ) in
/-- What stands under a key after calls that left `o`, where `before` stood first. -/
def Stands (name : P → String) (before : Option Json) : Option (Option (P × Baseline)) → Option Json → Prop
  | none, after => after = before
  | some none, after => Host.Candid σ → after = none
  | some (some (phase, b)), after => ∃ (date : Instant) (who : String), date.InCalendar ∧
      after = some (Progress.toJson ⟨name phase, b, some date, some who⟩).sort

/-- Calls after other calls. -/
theorem Stands.trans {before between after : Option Json} {o o' : Option (Option (P × Baseline))}
    (h : Stands σ name before o between) (h' : Stands σ name between o' after) :
    Stands σ name before (o'.or o) after := by
  match o' with
  | none =>
    obtain rfl : after = between := h'
    exact h
  | some none => exact h'
  | some (some _) => exact h'

section Uses

variable {registry : Registry} {endpoint : Option String} {key : String}

variable (ranks key)

/-- What a call leaves behind: a tracker of the same progress, a later world, a sorted document, and what the call is
said to leave. -/
theorem use_stands (hreg : registry = .shared endpoint) (phase : P) (u : Use P) (w : World σ) : ∃ r phase' w' events,
    (Tracker.mk registry key ranks phase).use u w = (r, ⟨registry, key, ranks, phase'⟩, w') ∧ w.Leads events w' ∧
      ((∀ j, w.store.get? key = some j → j.sorted) → ∀ j, w'.store.get? key = some j → j.sorted) ∧
      (w.date.InCalendar → Stands σ ranks.name (w.store.get? key) (leaves (u, r)) (w'.store.get? key)) := by
  have hsame {w' : World σ} (hstore : w'.store = w.store) :
      (∀ j, w.store.get? key = some j → j.sorted) → ∀ j, w'.store.get? key = some j → j.sorted := by
    rw [hstore]
    exact id
  cases u with
  | load =>
    obtain ⟨w', ⟨huse, hl⟩ | ⟨f, huse, hl, -⟩⟩ := use_load (t := ⟨registry, key, ranks, phase⟩) hreg w
    · exact ⟨_, _, w', _, huse, hl, hsame hl.store, fun _ => congrArg (Table.get? · key) hl.store⟩
    · exact ⟨_, _, w', _, huse, hl, hsame hl.store, fun _ => congrArg (Table.get? · key) hl.store⟩
  | advance phase' b =>
    by_cases hback : ranks.rank phase' < ranks.rank phase
    · obtain ⟨f, huse⟩ := use_advance_back (t := ⟨registry, key, ranks, phase⟩) hback b w
      exact ⟨_, _, w, _, huse, World.Leads.refl w, id, fun _ => rfl⟩
    · obtain ⟨w', ⟨huse, hl⟩ | ⟨f, huse, hl⟩⟩ := use_advance (t := ⟨registry, key, ranks, phase⟩) hreg hback b w
      · have hstands : w'.store.get? key = some (document ⟨registry, key, ranks, phase⟩ phase' b w) := by
          rw [hl.store]
          exact Table.get?_insert_self _ _ _
        refine ⟨_, _, w', _, huse, hl, fun _ j hj => ?_, fun hdate => ⟨w.date, w.holder, hdate, hstands⟩⟩
        rw [hstands] at hj
        cases hj
        exact Json.sort_sorted _
      · exact ⟨_, _, w', _, huse, hl, hsame hl.store, fun _ => congrArg (Table.get? · key) hl.store⟩
  | clear =>
    obtain ⟨w', ⟨huse, hl | ⟨hl, hmissing⟩⟩ | ⟨f, huse, hl⟩⟩ := use_clear (t := ⟨registry, key, ranks, phase⟩) hreg w
    · have habsent : w'.store.get? key = none := by
        rw [hl.store]
        exact Table.get?_erase_self _ _
      refine ⟨_, _, w', _, huse, hl, fun _ j hj => ?_, fun _ _ => habsent⟩
      rw [habsent] at hj
      cases hj
    · refine ⟨_, _, w', _, huse, hl, hsame hl.store, fun _ candid => ?_⟩
      rw [hl.store]
      exact hmissing candid
    · exact ⟨_, _, w', _, huse, hl, hsame hl.store, fun _ => congrArg (Table.get? · key) hl.store⟩

/-- What a fresh tracker finds after calls that left `o`: what was noted last, nothing if it was forgotten since, or the
document that stood there first. -/
def FindsLeft (registry : Registry) (key : String) (ranks : PhaseRanks P) (sequence : List P) (before : Option Json)
    (o : Option (Option (P × Baseline))) (w : World σ) : Prop :=
  match o with
  | none => w.store.get? key = before
  | some none => Host.Candid σ → Finds registry key ranks ranks.initial .unknown w
  | some (some (phase, b)) => phase ∈ sequence → b.Fits → Finds registry key ranks phase b w

theorem Stands.finds (hreg : registry = .shared endpoint) (hranks : PhaseRanks.build name sequence = some ranks)
    {before : Option Json} {o : Option (Option (P × Baseline))} {w : World σ}
    (h : Stands σ ranks.name before o (w.store.get? key)) : FindsLeft registry key ranks sequence before o w := by
  match o with
  | none => exact h
  | some none =>
    intro candid
    refine finds_of_interpret hreg ?_
    rw [h candid]
    rfl
  | some (some (phase, b)) =>
    obtain ⟨date, who, hdate, hdoc⟩ := h
    intro hmem hb
    refine finds_of_interpret hreg ?_
    rw [hdoc]
    refine interpret_toJson ((PhaseRanks.parse_of_build hranks).mpr ⟨hmem, ?_⟩) hb hdate who
    rw [PhaseRanks.name_of_build hranks]

/-- The trackers of one procedure, each at a phase of its own. -/
def sharing (registry : Registry) (key : String) (ranks : PhaseRanks P) (phases : I → P) : I → Tracker P :=
  fun i => ⟨registry, key, ranks, phases i⟩

variable [DecidableEq I]

theorem left_cons (e : Use P × Except Fault (Option Baseline)) (journal : List (Use P × Except Fault (Option Baseline))) :
    left (e :: journal) = (left journal).or (leaves e) := by
  unfold left
  cases h : leaves e with
  | none => rw [List.filterMap_cons_none h, Option.or_none]
  | some o =>
    rw [List.filterMap_cons_some h, List.getLast?_cons]
    cases (journal.filterMap leaves).getLast? <;> rfl

/-- A call, and then the rest of them. -/
theorem uses_cons (hreg : registry = .shared endpoint) (pause : Span) (i : I) (u : Use P)
    (rest : List (Span × I × Use P)) (phases : I → P) (w : World σ) : ∃ r phase' w₁ events,
      uses (sharing registry key ranks phases) ((pause, i, u) :: rest) w =
        ((u, r) :: (uses (sharing registry key ranks (Function.update phases i phase')) rest w₁).1,
          (uses (sharing registry key ranks (Function.update phases i phase')) rest w₁).2) ∧
      (w.later pause).Leads events w₁ ∧
      ((∀ j, w.store.get? key = some j → j.sorted) → ∀ j, w₁.store.get? key = some j → j.sorted) ∧
      ((w.later pause).date.InCalendar →
        Stands σ ranks.name (w.store.get? key) (leaves (u, r)) (w₁.store.get? key)) := by
  obtain ⟨r, phase', w₁, events, huse, hl, hsorted, hstands⟩ :=
    use_stands ranks key hreg (phases i) u (w.later pause)
  have hupdate : Function.update (sharing registry key ranks phases) i ⟨registry, key, ranks, phase'⟩ =
      sharing registry key ranks (Function.update phases i phase') :=
    (Function.comp_update (Tracker.mk registry key ranks) phases i phase').symm
  have huse : (sharing registry key ranks phases i).use u (w.later pause) = _ := huse
  refine ⟨r, phase', w₁, events, ?_, hl, hsorted, hstands⟩
  rw [← hupdate, uses, huse]

/-- What any calls leave behind, as each of them does. -/
theorem uses_stand (hreg : registry = .shared endpoint) (calls : List (Span × I × Use P)) (phases : I → P)
    (w : World σ) : ∃ journal phases' w' events,
      uses (sharing registry key ranks phases) calls w = (journal, sharing registry key ranks phases', w') ∧
      w.Leads events w' ∧
      ((∀ j, w.store.get? key = some j → j.sorted) → ∀ j, w'.store.get? key = some j → j.sorted) ∧
      ((∀ d, w.Shows w' d → d.InCalendar) →
        Stands σ ranks.name (w.store.get? key) (left journal) (w'.store.get? key)) := by
  induction calls generalizing phases w with
  | nil => exact ⟨[], phases, w, [], rfl, World.Leads.refl w, id, fun _ => rfl⟩
  | cons call rest ih =>
    obtain ⟨pause, i, u⟩ := call
    have hpause := World.leads_later w pause
    obtain ⟨r, phase', w₁, events, hcons, hl, hsorted, hstands⟩ :=
      uses_cons ranks key hreg pause i u rest phases w
    obtain ⟨journal, phases', w', events', huses, hl', hsorted', hstands'⟩ := ih (Function.update phases i phase') w₁
    rw [huses] at hcons
    refine ⟨(u, r) :: journal, phases', w', _, hcons, (hpause.trans hl).trans hl', fun h => hsorted' (hsorted h),
      fun hdates => ?_⟩
    have hdate : (w.later pause).date.InCalendar :=
      hdates _ (((World.shows_date (w.later pause)).later (hl.trans hl')).earlier hpause)
    rw [left_cons]
    exact (hstands hdate).trans (hstands' fun d hd => hdates d (hd.earlier (hpause.trans hl)))

/-- The clock shows the date of a call on the way to the end of all. -/
theorem shows_call (hreg : registry = .shared endpoint) (pause : Span) (i : I) (u : Use P)
    (rest : List (Span × I × Use P)) (phases : I → P) (w : World σ) :
    w.Shows (uses (sharing registry key ranks phases) ((pause, i, u) :: rest) w).2.2 (w.later pause).date := by
  obtain ⟨r, phase', w₁, events, hcons, hl, -⟩ := uses_cons ranks key hreg pause i u rest phases w
  obtain ⟨journal, phases', w', events', huses, hl', -⟩ :=
    uses_stand ranks key hreg rest (Function.update phases i phase') w₁
  rw [hcons, huses]
  exact ((World.shows_date (w.later pause)).later (hl.trans hl')).earlier (World.leads_later w pause)

/-- Calls after other calls start with the trackers and in the world that those ended with. -/
theorem uses_append (before after : List (Span × I × Use P)) (ts : I → Tracker P) (w : World σ) :
    (uses ts (before ++ after) w).2 = (uses (uses ts before w).2.1 after (uses ts before w).2.2).2 := by
  induction before generalizing ts w with
  | nil => rfl
  | cons call before ih =>
    obtain ⟨pause, i, u⟩ := call
    exact ih _ _

variable {ranks}

/-- In any row of calls to trackers that share a key, each call abides by the laws, and after it a fresh tracker finds
what was noted last. -/
theorem uses_abide (hreg : registry = .shared endpoint) (hranks : PhaseRanks.build name sequence = some ranks)
    (phases : I → P) (calls : List (Span × I × Use P)) (w : World σ)
    (hsorted : ∀ j, w.store.get? key = some j → j.sorted)
    (hdates : ∀ d, w.Shows (uses (sharing registry key ranks phases) calls w).2.2 d → d.InCalendar) :
    (∀ before pause i u after, calls = before ++ (pause, i, u) :: after →
      (∃ phase, (uses (sharing registry key ranks phases) before w).2.1 i = ⟨registry, key, ranks, phase⟩) ∧
      Abides name sequence ((uses (sharing registry key ranks phases) before w).2.1 i)
        ((uses (sharing registry key ranks phases) before w).2.2.later pause)) ∧
    FindsLeft registry key ranks sequence (w.store.get? key)
      (left (uses (sharing registry key ranks phases) calls w).1)
      (uses (sharing registry key ranks phases) calls w).2.2 := by
  constructor
  · rintro before pause i u after rfl
    obtain ⟨journal, phases', w', events, huses, hl, hsorted', -⟩ :=
      uses_stand ranks key hreg before phases w
    rw [uses_append, huses] at hdates
    rw [huses]
    have hdate : (w'.later pause).date.InCalendar :=
      hdates _ ((shows_call ranks key hreg pause i u after phases' w').earlier hl)
    exact ⟨⟨_, rfl⟩, abides hreg hranks (hsorted' hsorted) hdate⟩
  · obtain ⟨journal, phases', w', events, huses, hl, -, hstands⟩ :=
      uses_stand ranks key hreg calls phases w
    rw [huses] at hdates ⊢
    exact (hstands hdates).finds ranks key hreg hranks

end Uses

/-! ## Two trackers -/

section Pair

/-- One tracker notes a phase, the other one takes it up, and the first one tries to go back. -/
def pairCalls : List (Span × Bool × Use DatabasePhase) :=
  [(0, true, .advance .scaledUp ⟨some 240, some 1⟩), (0, false, .load), (0, true, .advance .start .unknown)]

/-- What comes of it. -/
def pairUses : List (Use DatabasePhase × Except Fault (Option Baseline)) × (Bool → Tracker DatabasePhase) ×
    World Obliging :=
  uses (sharing (.shared none) "state" DatabaseUpgrade.standard.ranks fun _ => .start) pairCalls (Obliging.world "mysql")

theorem uses_abide_pair : PhaseRanks.build DatabasePhase.name DatabasePhase.sequence = some DatabaseUpgrade.standard.ranks ∧
    (pairUses.2.1 false).current = .scaledUp ∧ (pairUses.2.1 true).current = .scaledUp ∧
    Finds (.shared none) "state" DatabaseUpgrade.standard.ranks .scaledUp ⟨some 240, some 1⟩ pairUses.2.2 := by
  have hnow : pairUses.2.2.now = (Obliging.world "mysql").now := by decide +kernel
  have hdate : (Obliging.world "mysql").date.InCalendar :=
    ⟨by decide +kernel, by decide +kernel, by decide +kernel, by decide +kernel⟩
  obtain ⟨-, hfinds⟩ := uses_abide "state" (rfl : Registry.shared none = .shared none)
    DatabaseUpgrade.ranks_standard (fun _ => .start) pairCalls (Obliging.world "mysql") (fun j hj => nomatch hj) (by
      rintro i ⟨d, hbefore, hafter, rfl⟩
      have hafter : d ≤ pairUses.2.2.now := hafter
      rw [hnow] at hafter
      rw [Nat.le_antisymm hafter hbefore]
      exact hdate)
  have hleft : left pairUses.1 = some (some (.scaledUp, ⟨some 240, some 1⟩)) := by rfl
  have hfinds : FindsLeft (.shared none) "state" DatabaseUpgrade.standard.ranks DatabasePhase.sequence none
      (left pairUses.1) pairUses.2.2 := hfinds
  rw [hleft] at hfinds
  refine ⟨DatabaseUpgrade.ranks_standard, by decide +kernel, by decide +kernel, hfinds (by decide) ⟨?_, ?_⟩⟩
  · rintro n ⟨⟩
    decide
  · rintro n ⟨⟩
    decide

end Pair

end Rollout.Tracker
