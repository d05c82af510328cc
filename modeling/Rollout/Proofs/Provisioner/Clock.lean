import Rollout.Proofs.Config.Findings
import Rollout.Proofs.Provisioner.Retry

/-!
# Rollout.Proofs.Provisioner.Clock — attempts at the end of the clock

After an attempt that finds the state locked, the time that has passed and the interval are added.  A clock that counts
seconds in 64 bits can represent every sum up to the deadline, so the sum is beyond it only where no other attempt would
be made anyhow.  There the run panics and does not report the lock that was found.

* `Retry.Policy.Fits.of_goesOn`: before another attempt the sum can be represented.
* `Retry.Policy.loop_overrun`: what comes of a sum that cannot.
* `Retry.Policy.Closes`, `Retry.run_closes`: how a run ends, and when it panics.
-/

namespace Rollout.Retry

variable {σ α : Type}

namespace Policy

variable {p : Policy} {attempt : Act σ α} {started : Span} {w : World σ}

/-- Sums up to a deadline that the clock can represent can be represented. -/
theorem Fits.of_goesOn (hdeadline : p.deadline < Span.bound) (h : p.GoesOn attempt started w) :
    p.Fits attempt started w := by
  obtain ⟨_, -, -, htime⟩ := h
  exact fun _ _ _ => Nat.lt_of_le_of_lt htime hdeadline

theorem not_fits_iff : ¬ p.Fits attempt started w ↔ ∃ e, (attempt w).1 = .error e ∧ e.isStateLocked = true ∧
    Span.bound ≤ (attempt w).2.now - started + p.interval := by
  simp [Fits]

/-- The run panics at a sum that the clock cannot represent. -/
theorem loop_overrun (h : ¬ p.Fits attempt started w) (n : Nat) :
    loop p.interval p.deadline started attempt (n + 1) w = Risky.panic beyondClock (attempt w).2 := by
  obtain ⟨e, hresult, hlocked, hbound⟩ := not_fits_iff.mp h
  unfold loop
  generalize attempt w = y at hresult hbound
  obtain ⟨r, w'⟩ := y
  cases hresult
  simp only [hlocked, if_true, if_pos hbound]

/-- How a run ends after the `k`-th attempt, counted from zero.

* After each attempt before it the state was locked, and the sum of time and interval was within the deadline.
* After it that is not so.
* It is how the run ends, unless it finds the state locked and the clock cannot represent the sum; then the run
  panics. -/
structure Closes (p : Policy) (attempt : Act σ α) (w : World σ) (k : Nat) : Prop where
  before : ∀ i < k, p.GoesOn attempt w.now (attempt.turn p.interval w i) ∧
    p.Fits attempt w.now (attempt.turn p.interval w i)
  last : ¬ p.GoesOn attempt w.now (attempt.turn p.interval w k)
  ended : p.Fits attempt w.now (attempt.turn p.interval w k) →
    p.run attempt w = Risky.lift attempt (attempt.turn p.interval w k)
  overrun : ¬ p.Fits attempt w.now (attempt.turn p.interval w k) →
    p.run attempt w = Risky.panic beyondClock (attempt (attempt.turn p.interval w k)).2

/-- Attempts that leave time for another one are no more than intervals fit before the deadline. -/
theorem few_goOn (hinterval : 0 < p.interval) (hforward : attempt.Forward) {k : Nat}
    (h : ∀ i < k, p.GoesOn attempt w.now (attempt.turn p.interval w i)) : k < p.mostAttempts := by
  have hmost : p.mostAttempts = p.deadline / p.interval + 1 := if_neg (Nat.ne_of_gt hinterval)
  have htime : k * p.interval ≤ p.deadline :=
    Nat.le_of_add_le_add_left (Nat.le_trans (hforward.turn_now k) (turn_early hforward h))
  rw [hmost, Nat.lt_succ_iff, Nat.le_div_iff_mul_le hinterval]
  exact htime

theorem exists_closes (hinterval : 0 < p.interval) (hdeadline : p.deadline < Span.bound) (hforward : attempt.Forward)
    (w : World σ) : ∃ k, p.Closes attempt w k := by
  obtain ⟨k, hk, hbefore, hstop⟩ :=
    exists_last (fun i => p.GoesOn attempt w.now (attempt.turn p.interval w i)) p.mostAttempts
  have hlast := hstop (few_goOn hinterval hforward hbefore)
  have hfits : ∀ i < k, p.Fits attempt w.now (attempt.turn p.interval w i) ∧
      p.GoesOn attempt w.now (attempt.turn p.interval w i) :=
    fun i hi => ⟨.of_goesOn hdeadline (hbefore i hi), hbefore i hi⟩
  obtain ⟨n, hcount⟩ := Nat.exists_eq_add_of_lt (few_goOn hinterval hforward hbefore)
  have hrun : p.run attempt w = loop p.interval p.deadline w.now attempt (n + 1) (attempt.turn p.interval w k) := by
    have hmost : p.mostAttempts = n + 1 + k := by omega
    have hnext (m : Nat) (w' : World σ) (hgoes : p.Fits attempt w.now w' ∧ p.GoesOn attempt w.now w') :=
      loop_next hgoes.1 hgoes.2 m
    unfold run
    rw [hmost]
    exact Act.loop_turn hnext hfits (n + 1)
  refine ⟨k, fun i hi => ⟨hbefore i hi, (hfits i hi).1⟩, hlast, fun hfit => ?_, fun hbeyond => ?_⟩
  · rw [hrun]
    exact loop_stop hfit hlast _
  · rw [hrun]
    exact loop_overrun hbeyond n

/-- Where the interval is longer than the deadline, there is one attempt. -/
theorem Closes.first {k : Nat} (h : p.Closes attempt w k) (hlong : p.deadline < p.interval) : k = 0 := by
  by_contra hk
  obtain ⟨⟨_, -, -, htime⟩, -⟩ := h.before 0 (Nat.pos_of_ne_zero hk)
  exact Nat.not_le.mpr hlong (Nat.le_trans (Nat.le_add_left _ _) htime)

end Policy

theorem ofSeconds_lt {m n : Nat} : Span.ofSeconds m < Span.ofSeconds n ↔ m < n :=
  Nat.mul_lt_mul_left (by decide)

/-- How a run ends as is configured: with its last attempt, or in a panic if that finds the state locked and the time
passed and the interval come to more than the clock can represent.  That does not happen where no attempt is so long that
it could, and where the interval is longer than the deadline the first attempt is the last. -/
theorem run_closes {c : Config} {review : Config.Review} (haccept : c.accept = .ok review)
    (hdeadline : c.retry.deadline < UInt64.size) {attempt : Act σ α} (hforward : attempt.Forward) (w : World σ) :
    ∃ k, (Policy.ofConfig c.retry).Closes attempt w k ∧
      (c.retry.deadline < c.retry.interval → k = 0) ∧
      ∀ longest, (∀ w, (attempt w).2.now ≤ w.now + longest) →
        Span.ofSeconds c.retry.deadline + longest + Span.ofSeconds c.retry.interval < Span.bound →
        run c.retry attempt w = Risky.lift attempt (attempt.turn (Span.ofSeconds c.retry.interval) w k) := by
  have hinterval : 0 < (Policy.ofConfig c.retry).interval :=
    Nat.mul_pos (by decide) (Config.wellFormed_of_accept haccept).interval
  obtain ⟨k, hk⟩ := Policy.exists_closes hinterval (ofSeconds_lt.mpr hdeadline) hforward w
  refine ⟨k, hk, fun hlong => hk.first (ofSeconds_lt.mpr hlong), fun longest hbrief hsum => ?_⟩
  exact hk.ended (Policy.InRange.of_brief hforward hbrief hsum k fun i hi => (hk.before i hi).1)

/-- A configuration with the longest interval there is. -/
def eternal : Config := { Config.default with retry := ⟨UInt64.size - 1, 300⟩ }

theorem eternal_accepted : eternal.accept = .ok eternal.review := Config.accept_eq_ok (by decide +kernel)

theorem run_closes_eternal : eternal.accept = .ok eternal.review ∧ eternal.retry.deadline < UInt64.size ∧
    Policy.busy.Forward ∧ ∃ k, (Policy.ofConfig eternal.retry).Closes Policy.busy (.start () "" FileTree.empty) k ∧
      (eternal.retry.deadline < eternal.retry.interval → k = 0) := by
  have hforward : Policy.busy.Forward := fun w => Nat.le_add_right _ _
  obtain ⟨k, hk, hfirst, -⟩ := run_closes eternal_accepted (by decide) hforward (.start () "" FileTree.empty)
  exact ⟨eternal_accepted, by decide, hforward, k, hk, hfirst⟩

/-- The first attempt finds the state locked, the interval is longer than the deadline, and the run panics. -/
theorem lock_unreported : eternal.accept = .ok eternal.review ∧ eternal.retry.interval < UInt64.size ∧
    eternal.retry.deadline < eternal.retry.interval ∧
    (∃ e : Fault, (Policy.busy (.start () "" FileTree.empty)).1 = .error e ∧ e.isStateLocked = true) ∧
    (run eternal.retry Policy.busy (.start () "" FileTree.empty)).1 = .ok (.error beyondClock) :=
  ⟨eternal_accepted, by decide, by decide, ⟨_, rfl, rfl⟩, by decide +kernel⟩

end Rollout.Retry
