import Rollout.Proofs.Doc.Yields
import Rollout.Proofs.Json.Sorted
import Rollout.Proofs.Time.Written
import Rollout.Proofs.Upgrade.Moves
import Rollout.Proofs.Upgrade.Tells

/-!
# Rollout.Proofs.Upgrade.Record — the document of an upgrade is read as it was written

* `Baseline.Fits`: what was found at the start fits the width of its numbers.
* `Progress.tells_toJson`: the document that is stored of progress tells of it.
* `DatabaseUpgrade.interpret_record`: the document of a phase tells of that phase.
* `Tracker.interpret_fits`: whatever a document tells of the start fits the width of its numbers.
-/

namespace Rollout

/-- The numbers of a baseline are of the width in which they are kept. -/
structure Baseline.Fits (b : Baseline) : Prop where
  revision : ∀ n, b.revision = some n → n < UInt64.size
  scale : ∀ n, b.scale = some n → n < UInt32.size

theorem Baseline.fields_yields : Baseline.fields.Yields Baseline.Fits := by
  unfold Baseline.fields
  refine Fields.Yields.seq ?_ (Fields.optional_yields (Decoder.natBelow_yields UInt32.size "u32") _)
  refine (Fields.optional_yields (Decoder.natBelow_yields UInt64.size "u64") _).map ?_
  exact fun _ hrevision _ hscale => ⟨hrevision, hscale⟩

theorem Progress.decoder_yields : Progress.decoder.Yields fun p => p.baseline.Fits := by
  have hfields : ((fun phase baseline updatedAt updatedBy => (phase, baseline, updatedAt, updatedBy))
      <$> Fields.required "state" Decoder.string <*> Baseline.fields <*> Fields.optional "updated_at" Lock.instant
      <*> Fields.optional "updated_by" Decoder.string).Yields fun r => r.2.1.Fits := by
    refine Fields.Yields.seq (Fields.Yields.seq (Fields.Yields.seq ?_ Baseline.fields_yields) (Fields.yields_any _))
      (Fields.yields_any _)
    exact (Fields.yields_any _).map fun _ _ _ hbaseline _ _ _ _ => hbaseline
  intro doc
  exact (Fields.spread_yields hfields _ doc).bind fun r hr => Reading.yields_pure hr.1

/-- Of the start of an upgrade a document tells nothing that does not fit. -/
theorem Tracker.interpret_fits {P : Type} (ranks : PhaseRanks P) (document : Option Json) :
    (interpret ranks document).2.Fits := by
  have hunknown : Baseline.unknown.Fits := ⟨(fun _ h => nomatch h), fun _ h => nomatch h⟩
  unfold interpret
  split
  · rename_i progress hread
    obtain ⟨j, -, hj⟩ := Option.map_eq_some_iff.mp hread
    exact Progress.decoder_yields.ofJson hj
  · exact hunknown

namespace Progress

/-- The members of what is stored of progress, by rising key. -/
theorem sort_toJson (phase : String) (b : Baseline) (date : Instant) (who : String) :
    (toJson ⟨phase, b, some date, some who⟩).sort =
      .obj [("original_revision", .ofOption .nat b.revision), ("original_scale", .ofOption .nat b.scale),
        ("state", .str phase), ("updated_at", .str date.text), ("updated_by", .str who)] := by
  have hscalar : ∀ o : Option Nat, (Json.ofOption Json.nat o).sort = .ofOption .nat o := by
    intro o
    cases o <;> rfl
  have hwritten : (toJson ⟨phase, b, some date, some who⟩).sort =
      .ofEntries [("state", .str phase), ("original_revision", .ofOption .nat b.revision),
        ("original_scale", .ofOption .nat b.scale), ("updated_at", .str date.text), ("updated_by", .str who)] := by
    simp only [toJson, Baseline.entries, Option.map_some, Option.toList_some, List.cons_append,
      List.nil_append, Json.sort, Json.sortMembers, hscalar]
  rw [hwritten]
  simp only [Json.ofEntries, Json.ofTable, Table.ofList, Table.insertAll, Table.insert, Table.empty, List.foldl_cons,
    List.foldl_nil, Entries.insert, String.reduceLT, String.reduceEq, ↓reduceIte]

/-- A number that fits, or none, is read as it was written. -/
theorem optional?_ofOption {bound : Nat} {o : Option Nat} (h : ∀ n, o = some n → n < bound) :
    Json.optional? (Json.natBelow? bound) (some (.ofOption .nat o)) = some o := by
  cases o with
  | none => rfl
  | some n =>
    have hn : (0 : Int) ≤ n ∧ (n : Int) < bound := ⟨Int.natCast_nonneg n, Int.ofNat_lt.mpr (h n rfl)⟩
    have hread : Json.natBelow? bound (.nat n) = some n := if_pos hn
    exact congrArg (Option.map some) hread

/-- What is stored of progress tells of it. -/
theorem tells_toJson {b : Baseline} {date : Instant} (hb : b.Fits) (hdate : date.InCalendar) (phase who : String) :
    (toJson ⟨phase, b, some date, some who⟩).sort.Tells ⟨phase, b, some date, some who⟩ := by
  have hat : Json.instant? (.str date.text) = some date := by
    simp [Json.instant?, Json.asStr?, Instant.parse_text hdate, Except.toOption]
  rw [sort_toJson]
  exact ⟨rfl, optional?_ofOption hb.revision, optional?_ofOption hb.scale, congrArg (Option.map some) hat, rfl⟩

end Progress

/-- What was stored of a phase is taken up as that phase. -/
theorem Tracker.interpret_toJson {P : Type} {ranks : PhaseRanks P} {name : String} {phase : P} {b : Baseline}
    {date : Instant} (hparse : ranks.parse name = some phase) (hb : b.Fits) (hdate : date.InCalendar) (who : String) :
    interpret ranks (some (Progress.toJson ⟨name, b, some date, some who⟩).sort) = (phase, b) := by
  have hread := (Progress.decoder_ofJson_iff (Json.sort_sorted _)).mpr (Progress.tells_toJson hb hdate name who)
  unfold interpret
  simp only [Option.map_some, hread, hparse, Option.getD_some]

namespace DatabaseUpgrade

variable {b : Baseline} {date : Instant}

/-- The members of the document of a phase, by rising key. -/
theorem record_eq (b : Baseline) (k : DatabasePhase) (date : Instant) (who : String) : record b k date who =
    .obj [("original_revision", .ofOption .nat b.revision), ("original_scale", .ofOption .nat b.scale),
      ("state", .str k.name), ("updated_at", .str date.text), ("updated_by", .str who)] :=
  Progress.sort_toJson k.name b date who

/-- The document of a phase is that of no other phase or start. -/
theorem record_inj {b b' : Baseline} {k k' : DatabasePhase} {date date' : Instant} {who who' : String}
    (h : record b k date who = record b' k' date' who') : b = b' ∧ k = k' := by
  have hscalar {o o' : Option Nat} (h : Json.ofOption Json.nat o = Json.ofOption Json.nat o') : o = o' := by
    match o, o', h with
    | none, none, _ => rfl
    | some n, some n', h => exact congrArg some (Int.ofNat.inj (Number.int.inj (Json.num.inj h)))
  rw [record_eq, record_eq] at h
  simp only [Json.obj.injEq, List.cons.injEq, Prod.mk.injEq, true_and, Json.str.injEq] at h
  obtain ⟨hrevision, hscale, hname, -⟩ := h
  refine ⟨?_, DatabasePhase.name_injective hname⟩
  cases b
  cases b'
  exact congrArg₂ Baseline.mk (hscalar hrevision) (hscalar hscale)

/-- The document of a phase tells of that phase and of what was found at the start. -/
theorem interpret_record {ranks : PhaseRanks DatabasePhase} (hr : DatabasePhase.ranks? = some ranks) (hb : b.Fits)
    (hdate : date.InCalendar) (k : DatabasePhase) (who : String) :
    Tracker.interpret ranks (some (record b k date who)) = (k, b) :=
  Tracker.interpret_toJson (DatabasePhase.parse_name hr k) hb hdate who

end DatabaseUpgrade

end Rollout
