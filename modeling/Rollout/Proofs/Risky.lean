import Rollout.Proofs.Within
import Rollout.Provisioner.Retry

/-!
# Rollout.Proofs.Risky — reasoning about actions that may panic

An action that may panic is an action whose results include panics, so what is known of actions applies to it.  The
rules here are for its own way of going on: a panic is handed on, as a fault is.

* `Risky.bind_lift`: after an action that does not panic.
* `Risky.ends_bind`, `Risky.ends_lift`: postconditions.
* `Within.risky_bind`, `Within.risky_lift`: what such actions leave alone.
* `Retry.run_within`: what every attempt leaves alone, all of them leave alone.
-/

namespace Rollout

variable {σ α β : Type}

namespace Risky

variable {w w' : World σ}

theorem lift_apply (x : Act σ α) (w : World σ) : lift x w = ((x w).1.map Except.ok, (x w).2) := by
  unfold lift Act.bind
  rcases x w with ⟨_ | a, w'⟩
  · rfl
  · rfl

/-- After an action that does not panic the next one comes as it would after any action. -/
theorem bind_lift (x : Act σ α) (f : α → Risky σ β) :
    (lift x >>= f : Risky σ β) = Act.bind x f := by
  funext w
  show Act.bind (lift x) (next f) w = Act.bind x f w
  unfold Act.bind
  rw [lift_apply]
  rcases x w with ⟨_ | a, w'⟩
  · rfl
  · rfl

/-! ## Postconditions -/

/-- One action after another: the second starts where the first ended, unless that has failed or panicked. -/
theorem ends_bind {x : Risky σ α} {f : α → Risky σ β}
    {R : Except Fault (Except Panic β) → List Event → World σ → Prop}
    (h : x.Ends w fun r t w' => match r with
      | .ok (.ok a) => (f a).Ends w' fun r' t' w'' => R r' (t ++ t') w''
      | .ok (.error p) => R (.ok (.error p)) t w'
      | .error e => R (.error e) t w') :
    (x >>= f : Risky σ β).Ends w R := by
  refine Act.ends_bind (f := next f) (h.mono fun r t w' _ hr => ?_)
  rcases r with e | p | a
  · exact hr
  · refine Act.ends_pure ?_
    rw [List.append_nil]
    exact hr
  · exact hr

theorem ends_lift {x : Act σ α} {Q : Except Fault (Except Panic α) → List Event → World σ → Prop}
    (h : x.Ends w fun r t w' => Q (r.map .ok) t w') : (lift x).Ends w Q := by
  obtain ⟨t, hl, hq⟩ := h
  unfold Act.Ends
  rw [lift_apply]
  exact ⟨t, hl, hq⟩

/-- What is known of a fault or a result is known of an end that may be a panic: there it is known of some fault. -/
def Amounts (Q : Except Fault α → Prop) : Except Fault (Except Panic α) → Prop
  | .ok (.ok a) => Q (.ok a)
  | .ok (.error _) => ∃ e, Q (.error e)
  | .error e => Q (.error e)

theorem Amounts.mono {Q Q' : Except Fault α → Prop} {r : Except Fault (Except Panic α)} (h : Amounts Q r)
    (hQ : ∀ r, Q r → Q' r) : Amounts Q' r := by
  rcases r with e | p | a
  · exact hQ _ h
  · obtain ⟨e, he⟩ := h
    exact ⟨e, hQ _ he⟩
  · exact hQ _ h

end Risky

/-! ## What is left alone -/

namespace Within

variable {E : Event → Prop}

theorem risky_bind {x : Risky σ α} {f : α → Risky σ β} (hx : Within E x) (hf : ∀ a, Within E (f a)) :
    Within E (x >>= f : Risky σ β) := by
  refine Within.bind (f := Risky.next f) hx fun r => ?_
  cases r with
  | error p => exact within_pure _
  | ok a => exact hf a

theorem risky_lift {x : Act σ α} (h : Within E x) : Within E (Risky.lift x) := h.bind fun _ => within_pure _

end Within

/-! ## Attempts -/

/-- What every attempt keeps within, all of them keep within. -/
theorem Retry.run_within {E : Event → Prop} {attempt : Act σ α} (h : Within E attempt) (p : Config.Retry) :
    Within E (Retry.run p attempt) := by
  have loop_within (interval deadline started : Span) (n : Nat) :
      Within E (loop interval deadline started attempt n) := by
    induction n with
    | zero => exact h.risky_lift
    | succ n ih =>
      constructor
      case becomes =>
        intro w
        have hattempt := h.becomes w
        unfold loop
        generalize attempt w = y at hattempt
        obtain ⟨_ | a, w'⟩ := y
        · dsimp only
          split
          · split
            · exact hattempt
            · split
              · exact hattempt
              · exact (hattempt.trans (World.becomes_later _ _)).trans (ih.becomes _)
          · exact hattempt
        · exact hattempt
      case blind =>
        intro w past store hagree
        obtain ⟨store', hattempt, hagree'⟩ := h.blind w past store hagree
        unfold loop
        rw [hattempt]
        generalize attempt w = y at hagree'
        obtain ⟨_ | a, w'⟩ := y
        · have hnow : (w'.amid past store').now = w'.now := rfl
          dsimp only
          rw [hnow]
          split
          · split
            · exact ⟨store', rfl, hagree'⟩
            · split
              · exact ⟨store', rfl, hagree'⟩
              · exact ih.blind (w'.later interval) past store' hagree'
          · exact ⟨store', rfl, hagree'⟩
        · exact ⟨store', rfl, hagree'⟩
  refine ⟨fun w => ?_, fun w past store => ?_⟩
  · exact (loop_within _ _ _ _).becomes w
  · exact (loop_within _ _ _ _).blind w past store

end Rollout
