import Rollout.Proofs.Doc.Members
import Rollout.Upgrade.Tracker

/-!
# Rollout.Proofs.Upgrade.Tells — which documents tell of progress

Any document may stand where the progress of a procedure is kept.

* `Json.Tells`: the documents that tell of progress: objects with a name of a phase, in which what else is known may be
  absent or `null` but is of its kind otherwise.
* `Progress.decoder_ofJson_iff`: they are those that are read.
-/

namespace Rollout

/-- The date and time that the text of a document tells. -/
def Json.instant? (j : Json) : Option Instant := j.asStr?.bind fun s => (Instant.parse s).toOption

open Reading in
theorem Lock.instant_decides : Lock.instant.Decides Json.instant? := by
  intro j p hp
  refine Decides.bind (Decoder.text_decides _ j p hp) fun s _ => ?_
  cases Instant.parse s with
  | ok t => exact gives_pure t p
  | error e => exact fails_fail _ p

/-- A document tells of progress: it is an object with the name of a phase, and what was found at the start and who wrote
it when are absent, `null`, or a number of the right width, a date and a text. -/
structure Json.Tells (doc : Json) (p : Progress) : Prop where
  phase : doc.get? "state" = some (.str p.phase)
  revision : Json.optional? (Json.natBelow? UInt64.size) (doc.get? "original_revision") = some p.baseline.revision
  scale : Json.optional? (Json.natBelow? UInt32.size) (doc.get? "original_scale") = some p.baseline.scale
  updatedAt : Json.optional? Json.instant? (doc.get? "updated_at") = some p.updatedAt
  updatedBy : Json.optional? Json.asStr? (doc.get? "updated_by") = some p.updatedBy

namespace Json

/-- A document tells of one progress at most. -/
theorem Tells.unique {doc : Json} {p p' : Progress} (h : doc.Tells p) (h' : doc.Tells p') : p = p' := by
  have hphase := Json.str.inj (Option.some.inj (h.phase.symm.trans h'.phase))
  have hrevision := Option.some.inj (h.revision.symm.trans h'.revision)
  have hscale := Option.some.inj (h.scale.symm.trans h'.scale)
  have hat := Option.some.inj (h.updatedAt.symm.trans h'.updatedAt)
  have hby := Option.some.inj (h.updatedBy.symm.trans h'.updatedBy)
  obtain ⟨phase, ⟨revision, scale⟩, at_, by_⟩ := p
  obtain ⟨phase', ⟨revision', scale'⟩, at', by'⟩ := p'
  simp only at hphase hrevision hscale hat hby
  subst hphase hrevision hscale hat hby
  rfl

/-- No name stands twice in an object that lists rising keys. -/
theorem sorted.nodup {members : List (String × Json)} (h : (obj members).sorted) : (members.map Prod.fst).Nodup :=
  h.1.nodup

end Json

namespace Progress

open Fields

variable {members : List (String × Json)}

theorem baseline_readsAs (hdistinct : (members.map Prod.fst).Nodup) : Baseline.fields.ReadsAs members
    (((Json.optional? (Json.natBelow? UInt64.size) (Entries.get? "original_revision" members)).map Baseline.mk).bind
      fun g => (Json.optional? (Json.natBelow? UInt32.size) (Entries.get? "original_scale" members)).map g) := by
  refine ReadsAs.seq (misses_or_one ?_) (ReadsAs.map ?_ Baseline.mk)
    (optional_readsAs (Decoder.natBelow_decides UInt32.size "u32") hdistinct "original_scale")
  · exact (pure_misses _).seq (one_misses (by decide))
  · exact optional_readsAs (Decoder.natBelow_decides UInt64.size "u64") hdistinct "original_revision"

/-- What an object is read as: the name of a phase that has to be there, and what may be absent. -/
theorem fields_readsAs (hdistinct : (members.map Prod.fst).Nodup) :
    ∃ o, ((fun phase baseline updatedAt updatedBy => (phase, baseline, updatedAt, updatedBy))
        <$> required "state" Decoder.string <*> Baseline.fields <*> optional "updated_at" Lock.instant
        <*> optional "updated_by" Decoder.string).ReadsAs members o ∧
      ∀ p : Progress, o = some (p.phase, p.baseline, p.updatedAt, p.updatedBy) ↔ (Json.obj members).Tells p := by
  have hstate {k : String} (hk : k ≠ "state") : (required "state" Decoder.string).Misses k := one_misses hk
  have hbaseline {k : String} (hk : k ≠ "original_revision") (hk' : k ≠ "original_scale") : Baseline.fields.Misses k :=
    ((pure_misses _).seq (one_misses hk)).seq (one_misses hk')
  refine ⟨_, ReadsAs.seq (misses_or_one ?_) (ReadsAs.seq (misses_or_one ?_) (ReadsAs.seq (fun k => ?_) (ReadsAs.map
    (required_readsAs (Decoder.text_decides "a string") hdistinct "state") _) (baseline_readsAs hdistinct))
    (optional_readsAs Lock.instant_decides hdistinct "updated_at"))
    (optional_readsAs (Decoder.text_decides "a string") hdistinct "updated_by"), fun p => ?_⟩
  · exact (((pure_misses _).seq (hstate (by decide))).seq (hbaseline (by decide) (by decide))).seq (one_misses (by decide))
  · exact ((pure_misses _).seq (hstate (by decide))).seq (hbaseline (by decide) (by decide))
  · by_cases hk : k = "state"
    · exact .inr (hk ▸ hbaseline (by decide) (by decide))
    · exact .inl ((pure_misses _).seq (hstate hk))
  · constructor
    · intro h
      obtain ⟨_, h, who, hwho, heq⟩ := by simpa only [Option.bind_eq_some_iff, Option.map_eq_some_iff] using h
      obtain ⟨_, h, date, hdate, rfl⟩ := h
      obtain ⟨_, ⟨phase, ⟨j, hj, hphase⟩, rfl⟩, _, ⟨_, ⟨revision, hrevision, rfl⟩, scale, hscale, rfl⟩, rfl⟩ := h
      cases p with
      | mk phase' baseline' updatedAt' updatedBy' =>
        obtain ⟨rfl, rfl, rfl, rfl⟩ : phase = phase' ∧ ⟨revision, scale⟩ = baseline' ∧ date = updatedAt' ∧
            who = updatedBy' := by simpa using heq
        cases j with
        | str s =>
          cases hphase
          exact ⟨hj, hrevision, hscale, hdate, hwho⟩
        | _ => cases hphase
    · rintro ⟨hphase, hrevision, hscale, hat, hby⟩
      have hphase : Entries.get? "state" members = some (.str p.phase) := hphase
      have hrevision : Json.optional? (Json.natBelow? UInt64.size) (Entries.get? "original_revision" members) = _ := hrevision
      have hscale : Json.optional? (Json.natBelow? UInt32.size) (Entries.get? "original_scale" members) = _ := hscale
      have hat : Json.optional? Json.instant? (Entries.get? "updated_at" members) = _ := hat
      have hby : Json.optional? Json.asStr? (Entries.get? "updated_by" members) = _ := hby
      rw [hphase, hrevision, hscale, hat, hby]
      rfl

/-- Only an object is read as progress. -/
theorem decoder_fails {j : Json} (h : ∀ members, j ≠ .obj members) (p : Place) : (decoder j.toDoc).Fails p :=
  Reading.Fails.bind (spread_fails h "PhaseRecord" p) _

/-- The documents that are read as progress are those that tell of it. -/
theorem decoder_ofJson_iff {doc : Json} (hsorted : doc.sorted) {p : Progress} :
    decoder.ofJson doc = .ok p ↔ doc.Tells p := by
  have hok (r : Except DecodeFault Progress) : r = .ok p ↔ r.toOption = some p := by
    cases r <;> simp [Except.toOption]
  rw [hok]
  cases doc with
  | obj members =>
    obtain ⟨o, hreads, hiff⟩ := fields_readsAs hsorted.nodup
    obtain ⟨kept, hspread⟩ := hreads.spread "PhaseRecord" (p := ⟨.plain .value, (Json.obj members).depth, []⟩)
      ⟨rfl, Nat.le_refl _⟩
    have hdecides := Decoder.ofJson_of_decides (d := decoder) (j := .obj members)
      (hspread.bind fun r _ => Reading.decides_pure _ _)
    rw [hdecides, ← hiff p]
    rcases o with _ | ⟨phase, baseline, updatedAt, updatedBy⟩
    · simp
    · cases p
      simp
  | _ =>
    rw [Decoder.ofJson_of_decides (o := none) (decoder_fails (by nofun) _)]
    refine ⟨(fun h => nomatch h), fun h => ?_⟩
    cases h.phase

end Progress

end Rollout
