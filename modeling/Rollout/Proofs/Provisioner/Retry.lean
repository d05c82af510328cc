import Rollout.Proofs.Risky
import Rollout.Proofs.Turns

/-!
# Rollout.Proofs.Provisioner.Retry — how often an attempt is made

Attempts are made again and again while the state is locked and the next one would start in time.  The policy counts no
attempts; that they end follows from the intervals, which add up to the deadline.

* `Retry.Policy.GoesOn`: an attempt after which another one is made.
* `Retry.Policy.InRange`: the clock can represent all times that are added; `InRange.of_brief`: where no attempt takes
  too long.
* `Retry.Policy.Attempts`, `Retry.Policy.run_attempts`: which attempts are made, when, and with what result.
-/

namespace Rollout.Retry

variable {σ α : Type}

namespace Policy

variable {p : Policy} {attempt : Act σ α} {started : Span} {w : World σ}

/-- An attempt finds the state locked and leaves time for another one. -/
def GoesOn (p : Policy) (attempt : Act σ α) (started : Span) (w : World σ) : Prop :=
  ∃ e, (attempt w).1 = .error e ∧ e.isStateLocked = true ∧ (attempt w).2.now - started + p.interval ≤ p.deadline

/-- After an attempt that finds the state locked the clock can represent the start of the next one. -/
def Fits (p : Policy) (attempt : Act σ α) (started : Span) (w : World σ) : Prop :=
  ∀ e, (attempt w).1 = .error e → e.isStateLocked = true → (attempt w).2.now - started + p.interval < Span.bound

/-- The clock can represent all times that are added while attempts are made. -/
def InRange (p : Policy) (attempt : Act σ α) (w : World σ) : Prop :=
  ∀ i, (∀ j < i, p.GoesOn attempt w.now (attempt.turn p.interval w j)) →
    p.Fits attempt w.now (attempt.turn p.interval w i)

theorem loop_next (hfits : p.Fits attempt started w) (h : p.GoesOn attempt started w) (n : Nat) :
    loop p.interval p.deadline started attempt (n + 1) w =
      loop p.interval p.deadline started attempt n ((attempt w).2.later p.interval) := by
  obtain ⟨e, hresult, hlocked, htime⟩ := h
  have hbound := hfits e hresult hlocked
  conv_lhs => unfold loop
  generalize attempt w = y at hresult htime hbound
  obtain ⟨r, w'⟩ := y
  cases hresult
  simp only [hlocked, if_true, if_neg (Nat.not_le.mpr hbound), if_neg (Nat.not_lt.mpr htime)]

theorem loop_stop (hfits : p.Fits attempt started w) (h : ¬ p.GoesOn attempt started w) (n : Nat) :
    loop p.interval p.deadline started attempt n w = Risky.lift attempt w := by
  cases n with
  | zero => rfl
  | succ n =>
    unfold GoesOn at h
    unfold Fits at hfits
    unfold loop
    rw [Risky.lift_apply]
    generalize attempt w = y at h hfits
    obtain ⟨r, w'⟩ := y
    cases r with
    | ok a => rfl
    | error e =>
      by_cases hlocked : e.isStateLocked = true
      · have hbound := hfits e rfl hlocked
        have hlate : p.deadline < w'.now - started + p.interval := by
          rw [← Nat.not_le]
          exact fun htime => h ⟨e, rfl, hlocked, htime⟩
        simp only [hlocked, if_true, if_neg (Nat.not_le.mpr hbound), if_pos hlate]
        rfl
      · simp only [if_neg hlocked]
        rfl

/-- As long as attempts go on, the next one takes what is left of the count. -/
theorem loop_turn (hrange : p.InRange attempt w) {k : Nat}
    (h : ∀ i < k, p.GoesOn attempt w.now (attempt.turn p.interval w i)) (n : Nat) :
    loop p.interval p.deadline w.now attempt (n + k) w =
      loop p.interval p.deadline w.now attempt n (attempt.turn p.interval w k) := by
  have hnext (n : Nat) (w' : World σ) (hgoes : p.Fits attempt w.now w' ∧ p.GoesOn attempt w.now w') :=
    loop_next hgoes.1 hgoes.2 n
  refine Act.loop_turn hnext (fun i hi => ⟨hrange i fun j hj => ?_, h i hi⟩) n
  exact h j (Nat.lt_trans hj hi)

/-- What the attempts are that are made from a world on, the last of them the `k`-th, counted from zero.

* There are at most as many as intervals fit before the deadline, and one more.
* Each but the first starts exactly an interval after the end of the one before.
* None starts later than the deadline after the start of the first one.
* All but the last find the state locked.
* The last one is how the run ends; if it finds the state locked as well, the next one would start too late. -/
structure Attempts (p : Policy) (attempt : Act σ α) (w : World σ) (k : Nat) : Prop where
  few : k + 1 ≤ p.deadline / p.interval + 1
  paused : ∀ i < k,
    (attempt.turn p.interval w (i + 1)).now = (attempt (attempt.turn p.interval w i)).2.now + p.interval
  early : ∀ i ≤ k, (attempt.turn p.interval w i).now ≤ w.now + p.deadline
  locked : ∀ i < k, ∃ e, (attempt (attempt.turn p.interval w i)).1 = .error e ∧ e.isStateLocked = true
  result : p.run attempt w = Risky.lift attempt (attempt.turn p.interval w k)
  late : ∀ e, (attempt (attempt.turn p.interval w k)).1 = .error e → e.isStateLocked = true →
    w.now + p.deadline < (attempt (attempt.turn p.interval w k)).2.now + p.interval

/-- The start of a turn after attempts that left time for it. -/
theorem turn_early (hforward : attempt.Forward) {k : Nat}
    (h : ∀ i < k, p.GoesOn attempt w.now (attempt.turn p.interval w i)) :
    (attempt.turn p.interval w k).now ≤ w.now + p.deadline := by
  cases k with
  | zero => exact Nat.le_add_right _ _
  | succ k =>
    obtain ⟨e, -, -, htime⟩ := h k (Nat.lt_succ_self k)
    have hafter : w.now ≤ (attempt (attempt.turn p.interval w k)).2.now :=
      Nat.le_trans (hforward.now_le_turn k) (hforward _)
    rw [Act.turn_succ_now, ← Nat.sub_add_cancel hafter, Nat.add_right_comm, Nat.add_comm w.now]
    exact Nat.add_le_add_right htime w.now

/-- A policy with an interval makes few attempts, each in time, and ends with the last one. -/
theorem run_attempts (hinterval : 0 < p.interval) (hforward : attempt.Forward) (hrange : p.InRange attempt w) :
    ∃ k, p.Attempts attempt w k := by
  have hmost : p.mostAttempts = p.deadline / p.interval + 1 := if_neg (Nat.ne_of_gt hinterval)
  obtain ⟨k, hk, hbefore, hstop⟩ :=
    exists_last (fun i => p.GoesOn attempt w.now (attempt.turn p.interval w i)) p.mostAttempts
  -- The intervals before the last attempt end by the deadline, so the count is never used up.
  have hfew : k ≤ p.deadline / p.interval := by
    rw [Nat.le_div_iff_mul_le hinterval]
    exact Nat.le_of_add_le_add_left (Nat.le_trans (hforward.turn_now k) (turn_early hforward hbefore))
  have hlast : ¬ p.GoesOn attempt w.now (attempt.turn p.interval w k) := by
    refine hstop ?_
    rw [hmost]
    exact Nat.lt_succ_of_le hfew
  have hafter : w.now ≤ (attempt (attempt.turn p.interval w k)).2.now :=
    Nat.le_trans (hforward.now_le_turn k) (hforward _)
  refine ⟨k, ?few, fun i _ => rfl, ?early, ?locked, ?result, ?late⟩
  case few => exact Nat.succ_le_succ hfew
  case early => exact fun i hi => turn_early hforward fun j hj => hbefore j (Nat.lt_of_lt_of_le hj hi)
  case locked =>
    intro i hi
    obtain ⟨e, hresult, hlocked, -⟩ := hbefore i hi
    exact ⟨e, hresult, hlocked⟩
  case result =>
    have hcount : p.mostAttempts = p.mostAttempts - k + k := (Nat.sub_add_cancel hk).symm
    unfold run
    rw [hcount, loop_turn hrange hbefore]
    exact loop_stop (hrange k hbefore) hlast _
  case late =>
    intro e hresult hlocked
    have hlate : p.deadline < (attempt (attempt.turn p.interval w k)).2.now - w.now + p.interval := by
      rw [← Nat.not_le]
      exact fun htime => hlast ⟨e, hresult, hlocked, htime⟩
    rw [← Nat.sub_add_cancel hafter, Nat.add_right_comm, Nat.add_comm w.now]
    exact Nat.add_lt_add_right hlate w.now

/-- The clock can represent all times that are added where no attempt takes longer than it can, with the deadline and
an interval. -/
theorem InRange.of_brief {longest : Span} (hforward : attempt.Forward)
    (hbrief : ∀ w, (attempt w).2.now ≤ w.now + longest) (h : p.deadline + longest + p.interval < Span.bound) :
    p.InRange attempt w := by
  intro i hbefore e _ _
  have hend : (attempt (attempt.turn p.interval w i)).2.now ≤ w.now + (p.deadline + longest) := by
    rw [← Nat.add_assoc]
    exact Nat.le_trans (hbrief _) (Nat.add_le_add_right (turn_early hforward hbefore) longest)
  exact Nat.lt_of_le_of_lt (Nat.add_le_add_right (Nat.sub_le_iff_le_add'.mpr hend) _) h

/-- An interval of a minute and a deadline of five. -/
def standard : Policy := ofConfig .default

/-- An attempt of a hundred seconds that finds the state locked. -/
def busy : Act Unit Unit := fun w =>
  (.error (.provisioner (.stateLocked "openstack-plan" "state locked")), w.later (Span.ofSeconds 100))

theorem run_attempts_busy : 0 < standard.interval ∧ busy.Forward ∧
    standard.InRange busy (.start () "" FileTree.empty) ∧ ∃ k, standard.Attempts busy (.start () "" FileTree.empty) k := by
  have hinterval : 0 < standard.interval := by decide
  have hforward : busy.Forward := fun w => Nat.le_add_right _ _
  have hrange : standard.InRange busy (.start () "" FileTree.empty) :=
    .of_brief hforward (fun w => Nat.le_refl _) (by decide)
  exact ⟨hinterval, hforward, hrange, run_attempts hinterval hforward hrange⟩

end Policy

end Rollout.Retry
