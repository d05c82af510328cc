import Rollout.Proofs.Access
import Rollout.Upgrade.Tracker

/-!
# Rollout.Proofs.Upgrade.Tracker — what the calls of a tracker leave behind

A tracker makes one access to the registry for each of its calls, but for an advance to a phase that lies behind, which
it refuses by itself.

* `Tracker.exists_ends`, `Tracker.load_ends`, `Tracker.advance_ends`, `Tracker.clear_ends`: the calls.
* `Tracker.advance_back`: the advance that is refused.
-/

namespace Rollout.Tracker

variable {P σ : Type} [Host σ] {t : Tracker P} {endpoint : Option String}

/-- What is stored when a phase is noted in a world. -/
def document (t : Tracker P) (phase : P) (b : Baseline) (w : World σ) : Json :=
  (Progress.toJson ⟨t.ranks.name phase, b, some w.date, some w.holder⟩).sort

/-- Any document counts. -/
theorem exists_ends (hreg : t.registry = .shared endpoint) (w : World σ) : t.exists?.Ends w fun r events _ =>
    (r = .ok (w.store.get? t.key).isSome ∧ events = [.access (.get t.key) true]) ∨
      ∃ f, r = .error f ∧ events = [.access (.get t.key) false] ∧ (Host.refuse (.get t.key) w.host).1 = some f := by
  unfold exists?
  refine Act.ends_bind ((Registry.get_ends hreg t.key w).mono ?_)
  rintro r events w' - (⟨rfl, rfl⟩ | ⟨f, rfl, rfl, hrefused⟩)
  · exact Act.ends_pure (.inl ⟨rfl, rfl⟩)
  · exact .inr ⟨f, rfl, rfl, hrefused⟩

/-- A tracker takes up what is stored, or is back at the start if that cannot be read. -/
theorem load_ends (hreg : t.registry = .shared endpoint) (w : World σ) : t.load.Ends w fun r events _ =>
    (r = .ok ({ t with current := (interpret t.ranks (w.store.get? t.key)).1 },
        .ok (interpret t.ranks (w.store.get? t.key)).2) ∧ events = [.access (.get t.key) true]) ∨
      ∃ f, r = .ok ({ t with current := t.ranks.initial }, .error f) ∧ events = [.access (.get t.key) false] ∧
        (Host.refuse (.get t.key) w.host).1 = some f := by
  unfold load
  refine Act.ends_bind (Act.ends_attempt ((Registry.get_ends hreg t.key w).mono ?_))
  rintro r events w' - (⟨rfl, rfl⟩ | ⟨f, rfl, rfl, hrefused⟩)
  · exact Act.ends_pure (.inl ⟨rfl, rfl⟩)
  · exact Act.ends_pure (.inr ⟨f, rfl, rfl, hrefused⟩)

/-- There is no way back, and the registry is not asked. -/
theorem advance_back {phase : P} (h : t.ranks.rank phase < t.ranks.rank t.current) (b : Baseline) (w : World σ) :
    t.advance phase b w = (.error (.internal (t.key ++ " cannot move back from " ++ t.ranks.name t.current ++ " to " ++
      t.ranks.name phase)), w) := by
  unfold advance
  rw [if_pos h]
  rfl

/-- A phase that does not lie behind is noted with the date of the world, unless the host refuses. -/
theorem advance_ends (hreg : t.registry = .shared endpoint) {phase : P}
    (h : ¬ t.ranks.rank phase < t.ranks.rank t.current) (b : Baseline) (w : World σ) :
    (t.advance phase b).Ends w fun r events _ =>
      (r = .ok { t with current := phase } ∧ events = [.access (.put t.key (t.document phase b w)) true]) ∨
        ∃ f, r = .error f ∧ events = [.access (.put t.key (t.document phase b w)) false] ∧
          (Host.refuse (.put t.key (t.document phase b w)) w.host).1 = some f := by
  unfold advance
  rw [if_neg h]
  refine Act.ends_bind (Act.ends_asks (Act.ends_bind ((Registry.update_ends hreg _ w _).mono ?_)))
  rintro r events w' - (⟨rfl, rfl⟩ | ⟨f, rfl, rfl, hrefused⟩)
  · exact Act.ends_pure (.inl ⟨rfl, rfl⟩)
  · exact .inr ⟨f, rfl, rfl, hrefused⟩

/-- What is stored is removed, or was not there, unless the host refuses. -/
theorem clear_ends (hreg : t.registry = .shared endpoint) (w : World σ) : t.clear.Ends w fun r events _ =>
    (r = .ok { t with current := t.ranks.initial } ∧ (events = [.access (.delete t.key) true] ∨
        events = [.access (.delete t.key) false] ∧ (Host.Candid σ → w.store.get? t.key = none))) ∨
      ∃ f, r = .error f ∧ events = [.access (.delete t.key) false] ∧
        (Host.refuse (.delete t.key) w.host).1 = some f := by
  unfold clear
  refine Act.ends_bind ((Registry.deleteIfPresent_ends hreg t.key w).mono ?_)
  rintro r events w' - (⟨rfl, rfl⟩ | ⟨rfl, rfl, hmissing⟩ | ⟨f, rfl, rfl, hrefused⟩)
  · exact Act.ends_pure (.inl ⟨rfl, .inl rfl⟩)
  · exact Act.ends_pure (.inl ⟨rfl, .inr ⟨rfl, hmissing⟩⟩)
  · exact .inr ⟨f, rfl, rfl, hrefused⟩

end Rollout.Tracker
