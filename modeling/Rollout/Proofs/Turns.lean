import Mathlib.Data.Nat.Basic
import Rollout.Proofs.Trace

/-!
# Rollout.Proofs.Turns — doing something again and again

An action that is done again and again, with a pause each time, has turns.  Each starts a pause after the end of the
one before, so however little time the action itself takes, the pauses add up; that is what bounds the turns made before
a given time.

* `Act.Forward`: an action does not turn the clock back.
* `Act.turn`: the world in which a turn starts; `Act.Forward.turn_now`: its time at least.
* `Act.loop_turn`: turns and a loop that counts down.
* `exists_last`: of turns counted down, those that are made.
-/

namespace Rollout

namespace Act

variable {σ α β : Type} {x : Act σ α}

/-- An action takes time or takes none, but does not turn the clock back. -/
def Forward (x : Act σ α) : Prop := ∀ w, w.now ≤ (x w).2.now

theorem Ends.forward {Q : World σ → Except Fault α → List Event → World σ → Prop} (h : ∀ w, x.Ends w (Q w)) :
    x.Forward := by
  intro w
  obtain ⟨t, hl, -⟩ := h w
  exact hl.now

/-- The world in which an action starts for the `i`-th time, counted from zero, if it is done again and again with a
pause after each time. -/
def turn (x : Act σ α) (pause : Span) (w : World σ) : Nat → World σ
  | 0 => w
  | i + 1 => (x (turn x pause w i)).2.later pause

variable {pause : Span} {w : World σ}

theorem turn_succ_now (x : Act σ α) (pause : Span) (w : World σ) (i : Nat) :
    (x.turn pause w (i + 1)).now = (x (x.turn pause w i)).2.now + pause := rfl

/-- The turns from the second on are those of an action that starts with the second. -/
theorem turn_later (x : Act σ α) (pause : Span) (w : World σ) (i : Nat) :
    x.turn pause ((x w).2.later pause) i = x.turn pause w (i + 1) := by
  induction i with
  | zero => rfl
  | succ i ih =>
    unfold turn
    rw [ih]

/-- Before a turn there were the pauses between the turns. -/
theorem Forward.turn_now (h : x.Forward) (i : Nat) : w.now + i * pause ≤ (x.turn pause w i).now := by
  induction i with
  | zero => simp [turn]
  | succ i ih =>
    rw [turn_succ_now, Nat.succ_mul, ← Nat.add_assoc]
    exact Nat.add_le_add_right (Nat.le_trans ih (h (x.turn pause w i))) pause

theorem Forward.now_le_turn (h : x.Forward) (i : Nat) : w.now ≤ (x.turn pause w i).now :=
  Nat.le_trans (Nat.le_add_right _ _) (h.turn_now i)

/-- A loop that counts down goes from turn to turn, as long as after each there is another one. -/
theorem loop_turn {γ : Type} {loop : Nat → World σ → γ} {GoesOn : World σ → Prop}
    (hnext : ∀ n w, GoesOn w → loop (n + 1) w = loop n ((x w).2.later pause)) {k : Nat}
    (h : ∀ i < k, GoesOn (x.turn pause w i)) (n : Nat) : loop (n + k) w = loop n (x.turn pause w k) := by
  induction k generalizing n with
  | zero => rfl
  | succ k ih =>
    have hcount : n + (k + 1) = n + 1 + k := by omega
    rw [hcount, ih (fun i hi => h i (Nat.lt_succ_of_lt hi)) (n + 1)]
    exact hnext n _ (h k (Nat.lt_succ_self k))

end Act

/-- Counting up to `n`, there is a last number before which something holds throughout; it is `n`, or the thing does not
hold of it. -/
theorem exists_last (P : Nat → Prop) (n : Nat) : ∃ k ≤ n, (∀ i < k, P i) ∧ (k < n → ¬ P k) := by
  induction n with
  | zero => exact ⟨0, Nat.le_refl 0, fun i hi => absurd hi (Nat.not_lt_zero i), fun h => absurd h (Nat.lt_irrefl 0)⟩
  | succ n ih =>
    obtain ⟨k, hk, hbefore, hstop⟩ := ih
    by_cases hlast : k = n ∧ P k
    · obtain ⟨rfl, hP⟩ := hlast
      refine ⟨k + 1, Nat.le_refl _, fun i hi => ?_, fun h => absurd h (Nat.lt_irrefl _)⟩
      rcases Nat.lt_succ_iff_lt_or_eq.mp hi with hi | rfl
      · exact hbefore i hi
      · exact hP
    · refine ⟨k, Nat.le_succ_of_le hk, hbefore, fun _ hP => ?_⟩
      rcases Nat.lt_or_eq_of_le hk with hlt | heq
      · exact hstop hlt hP
      · exact hlast ⟨heq, hP⟩

end Rollout
