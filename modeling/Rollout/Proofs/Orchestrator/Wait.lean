import Mathlib.Algebra.Order.Floor.Div
import Rollout.Orchestrator.Wait
import Rollout.Proofs.Access
import Rollout.Proofs.Obliging
import Rollout.Proofs.Table
import Rollout.Proofs.Turns

/-!
# Rollout.Proofs.Orchestrator.Wait — how long something is waited for

Looks are taken again and again while they find nothing and there is time left.  Each look can find what is waited for,
fail, or come too late, and the first that does one of these is the last.

* `Wait.GoesOn`: a look after which another one is taken.
* `Wait.verdict`: what the last look amounts to.
* `Wait.Looks`, `Wait.exists_looks`: which looks are taken, when, and with what result.
* `Wait.Watches`, `Wait.watches`: the same of waiting for an application, which is the one that was seen last.
* `Wait.read_of_upgraded`: the wait for a unit ends with a read in which the unit reports the end of its upgrade.
* `Wait.read_of_settled`, `settled_of_read`: the wait for an application ends with a read, and with the first that will do.
-/

namespace Rollout.Wait

variable {σ α : Type} {p : Wait} {target expected : String} {look : Act σ (Except String α)} {started : Span}
  {w : World σ}

/-- A look finds nothing, and ends before the time has run out. -/
def GoesOn (p : Wait) (look : Act σ (Except String α)) (started : Span) (w : World σ) : Prop :=
  ∃ observed, (look w).1 = .ok (.error observed) ∧ (look w).2.now - started < p.timeout

/-- What a look amounts to that is the last one. -/
def verdict (target expected : String) : Except Fault (Except String α) → Except Fault α
  | .ok (.ok a) => .ok a
  | .ok (.error observed) => .error (outOfTime target expected observed)
  | .error e => .error e

theorem loop_next (h : p.GoesOn look started w) (n : Nat) : loop p target expected started look (n + 1) w =
    loop p target expected started look n ((look w).2.later p.delay) := by
  obtain ⟨observed, hresult, htime⟩ := h
  conv_lhs => unfold loop
  generalize look w = y at hresult htime
  obtain ⟨r, w'⟩ := y
  cases hresult
  exact if_neg (Nat.not_le.mpr htime)

theorem loop_zero : loop p target expected started look 0 w = (verdict target expected (look w).1, (look w).2) := by
  unfold loop
  generalize look w = y
  obtain ⟨_ | _ | _, w'⟩ := y <;> rfl

theorem loop_stop (h : ¬ p.GoesOn look started w) (n : Nat) :
    loop p target expected started look n w = (verdict target expected (look w).1, (look w).2) := by
  unfold GoesOn at h
  cases n with
  | zero => exact loop_zero
  | succ n =>
    unfold loop
    generalize look w = y at h
    obtain ⟨_ | observed | _, w'⟩ := y
    · rfl
    · have hlate : p.timeout ≤ w'.now - started := by
        rw [← Nat.not_lt]
        exact fun htime => h ⟨observed, rfl, htime⟩
      exact if_pos hlate
    · rfl

theorem eq_of_verdict {r : Except Fault (Except String α)} {a : α} (h : verdict target expected r = .ok a) :
    r = .ok (.ok a) := by
  obtain _ | _ | _ := r <;> cases h
  rfl

/-- What a loop ends with was found in one of its turns. -/
theorem loop_eq_ok {n : Nat} {a : α} {w' : World σ} (h : loop p target expected started look n w = (.ok a, w')) :
    ∃ i, look (look.turn p.delay w i) = (.ok (.ok a), w') := by
  have hlast (w : World σ) (h : (verdict target expected (look w).1, (look w).2) = (.ok a, w')) :
      look (look.turn p.delay w 0) = (.ok (.ok a), w') := by
    obtain ⟨hverdict, hworld⟩ := Prod.mk.inj h
    exact Prod.ext (eq_of_verdict hverdict) hworld
  induction n generalizing w with
  | zero => exact ⟨0, hlast w (loop_zero.symm.trans h)⟩
  | succ n ih =>
    by_cases hgoes : p.GoesOn look started w
    · rw [loop_next hgoes] at h
      obtain ⟨i, hi⟩ := ih h
      rw [Act.turn_later] at hi
      exact ⟨i + 1, hi⟩
    · rw [loop_stop hgoes] at h
      exact ⟨0, hlast w h⟩

/-- As long as looks go on, the next one takes what is left of the count. -/
theorem loop_turn {k : Nat} (h : ∀ i < k, p.GoesOn look started (look.turn p.delay w i)) (n : Nat) :
    loop p target expected started look (n + k) w =
      loop p target expected started look n (look.turn p.delay w k) :=
  Act.loop_turn (fun n _ hgoes => loop_next hgoes n) h n

/-- What the looks are that are taken from a world on, the last of them the `k`-th, counted from zero.

* There is at least one, and at most as many as delays begin before the time has run out, and one more.
* Each but the first starts exactly a delay after the end of the one before.
* All but the last find nothing, and end before the time has run out.
* What the last one finds is the result, and so is its fault.  If it finds nothing, it ends when the time has run out,
  and the fault that tells so carries what it observed.  In each case the wait ends with it. -/
structure Looks (p : Wait) (target expected : String) (look : Act σ (Except String α)) (w : World σ) (k : Nat) :
    Prop where
  few : k + 1 ≤ p.timeout ⌈/⌉ p.delay + 1
  paused : ∀ i < k, (look.turn p.delay w (i + 1)).now = (look (look.turn p.delay w i)).2.now + p.delay
  empty : ∀ i < k, ∃ observed, (look (look.turn p.delay w i)).1 = .ok (.error observed) ∧
    (look (look.turn p.delay w i)).2.now < w.now + p.timeout
  found : ∀ a, (look (look.turn p.delay w k)).1 = .ok (.ok a) →
    p.until target expected look w = (.ok a, (look (look.turn p.delay w k)).2)
  failed : ∀ e, (look (look.turn p.delay w k)).1 = .error e →
    p.until target expected look w = (.error e, (look (look.turn p.delay w k)).2)
  expired : ∀ observed, (look (look.turn p.delay w k)).1 = .ok (.error observed) →
    w.now + p.timeout ≤ (look (look.turn p.delay w k)).2.now ∧
      p.until target expected look w =
        (.error (outOfTime target expected observed), (look (look.turn p.delay w k)).2)

/-- The result of a wait is the verdict on its last look. -/
theorem Looks.until_eq {k : Nat} (h : p.Looks target expected look w k) : p.until target expected look w =
    (verdict target expected (look (look.turn p.delay w k)).1, (look (look.turn p.delay w k)).2) := by
  cases hresult : (look (look.turn p.delay w k)).1 with
  | error e => exact h.failed e hresult
  | ok found =>
    cases found with
    | ok a => exact h.found a hresult
    | error observed => exact (h.expired observed hresult).2

/-- A look in time starts before the time has run out, so there are not many. -/
theorem GoesOn.lt_ceilDiv (hdelay : 0 < p.delay) (hforward : look.Forward) {i : Nat}
    (h : p.GoesOn look w.now (look.turn p.delay w i)) : i < p.timeout ⌈/⌉ p.delay := by
  obtain ⟨observed, -, htime⟩ := h
  have hdelays : i * p.delay ≤ (look (look.turn p.delay w i)).2.now - w.now :=
    Nat.le_sub_of_add_le' (Nat.le_trans (hforward.turn_now i) (hforward _))
  rw [← Nat.not_le, ceilDiv_le_iff_le_smul hdelay, smul_eq_mul, Nat.mul_comm, Nat.not_le]
  exact Nat.lt_of_le_of_lt hdelays htime

/-- Waiting with a delay takes few looks and ends with the last one. -/
theorem exists_looks (hdelay : 0 < p.delay) (target expected : String) (hforward : look.Forward) (w : World σ) :
    ∃ k, p.Looks target expected look w k := by
  have hmost : p.mostDelays = p.timeout ⌈/⌉ p.delay := by
    rw [Nat.ceilDiv_eq_add_pred_div]
    exact if_neg (Nat.ne_of_gt hdelay)
  obtain ⟨k, hk, hbefore, hstop⟩ := exists_last (fun i => p.GoesOn look w.now (look.turn p.delay w i)) p.mostDelays
  have hafter (i : Nat) : w.now ≤ (look (look.turn p.delay w i)).2.now :=
    Nat.le_trans (hforward.now_le_turn i) (hforward _)
  -- A look that goes on is counted, so the count is not what ends the wait.
  have hlast : ¬ p.GoesOn look w.now (look.turn p.delay w k) := by
    intro hgoes
    refine hstop ?_ hgoes
    rw [hmost]
    exact hgoes.lt_ceilDiv hdelay hforward
  have huntil : p.until target expected look w =
      (verdict target expected (look (look.turn p.delay w k)).1, (look (look.turn p.delay w k)).2) := by
    have hcount : p.mostDelays = p.mostDelays - k + k := (Nat.sub_add_cancel hk).symm
    unfold «until»
    rw [hcount, loop_turn hbefore]
    exact loop_stop hlast _
  refine ⟨k, ?few, fun i _ => rfl, ?empty, ?found, ?failed, ?expired⟩
  case few =>
    rw [← hmost]
    exact Nat.succ_le_succ hk
  case empty =>
    intro i hi
    obtain ⟨observed, hresult, htime⟩ := hbefore i hi
    exact ⟨observed, hresult, (Nat.sub_lt_iff_lt_add' (hafter i)).mp htime⟩
  case found =>
    intro a hresult
    rw [huntil, hresult]
    rfl
  case failed =>
    intro e hresult
    rw [huntil, hresult]
    rfl
  case expired =>
    intro observed hresult
    refine ⟨?_, by rw [huntil, hresult]; rfl⟩
    rw [← Nat.not_lt]
    exact fun htime => hlast ⟨observed, hresult, (Nat.sub_lt_iff_lt_add' (hafter k)).mpr htime⟩

/-! ## Applications -/

variable [Host σ]

/-- A look at an application, when only accepted statuses will do. -/
def lookAt (o : Orchestrator) (application : String) (accepted : List String) :
    Act σ (Except String Application) := do
  return lookSettled accepted (← o.ask (.application application))

theorem lookAt_forward (o : Orchestrator) (application : String) (accepted : List String) :
    (lookAt o application accepted : Act σ _).Forward := by
  intro w
  have hworld : ((lookAt o application accepted) w).2 = (o.ask (.application application) w).2 :=
    Act.world_bind (fun _ _ => rfl) w
  rw [hworld]
  exact Act.Ends.forward (o.ask_ends (.application application)) w

theorem settled_iff {app : Application} {accepted : List String} :
    app.settled accepted = true ↔ app.status ∈ accepted ∧ app.units.All fun u => u.workload ∈ accepted := by
  rw [Application.settled, Bool.and_eq_true, List.contains_iff_mem, List.all_eq_true, Table.all_iff_entries]
  simp only [Table.values, List.forall_mem_map, List.contains_iff_mem]

/-- What is found at a look is the application that was read, and it and its units have accepted statuses. -/
theorem lookAt_eq_ok {o : Orchestrator} {application : String} {accepted : List String} {app : Application}
    (h : (lookAt o application accepted w).1 = .ok (.ok app)) :
    (o.ask (.application application) w).1 = .ok (some app) ∧ app.status ∈ accepted ∧
      app.units.All fun u => u.workload ∈ accepted := by
  unfold lookAt at h
  rw [Act.bind_apply] at h
  generalize o.ask (.application application) w = y at h
  obtain ⟨_ | found, w'⟩ := y
  · cases h
  · replace h : (Except.ok (lookSettled accepted found) : Except Fault _) = .ok (.ok app) := h
    rw [Except.ok.injEq] at h
    cases found with
    | none => cases h
    | some found =>
      unfold lookSettled at h
      dsimp only at h
      by_cases hsettled : found.settled accepted = true
      · rw [if_pos hsettled] at h
        cases h
        exact ⟨rfl, settled_iff.mp hsettled⟩
      · rw [if_neg hsettled] at h
        cases h

/-- A look that finds something has just read it. -/
theorem read_of_lookAt {o : Orchestrator} {application : String} {accepted : List String} {app : Application}
    {w' : World σ} (h : lookAt o application accepted w = (.ok (.ok app), w')) :
    o.ask (.application application) w = (.ok (some app), w') ∧ app.status ∈ accepted ∧
      app.units.All fun u => u.workload ∈ accepted := by
  obtain ⟨hask, hsettled⟩ := lookAt_eq_ok (congrArg Prod.fst h)
  have hworld : (lookAt o application accepted w).2 = (o.ask (.application application) w).2 :=
    Act.world_bind (fun _ _ => rfl) w
  exact ⟨Prod.ext hask (hworld.symm.trans (congrArg Prod.snd h)), hsettled⟩

/-- What a wait ends with was read in one of its turns. -/
theorem read_of_settled {o : Orchestrator} {application : String} {accepted : List String} {app : Application}
    {w' : World σ} (h : p.settled o application accepted w = (.ok app, w')) :
    ∃ i, o.ask (.application application) ((lookAt o application accepted).turn p.delay w i) = (.ok (some app), w') ∧
      app.status ∈ accepted ∧ app.units.All fun u => u.workload ∈ accepted := by
  obtain ⟨i, hfound⟩ : ∃ i, lookAt o application accepted ((lookAt o application accepted).turn p.delay w i) =
      (.ok (.ok app), w') := loop_eq_ok h
  exact ⟨i, read_of_lookAt hfound⟩

/-- A wait ends as soon as an application is read that has an accepted status, and whose units have. -/
theorem settled_of_read {o : Orchestrator} {application : String} {accepted : List String} {app : Application}
    {w' : World σ} (h : o.ask (.application application) w = (.ok (some app), w')) (hstatus : app.status ∈ accepted)
    (hunits : app.units.All fun u => u.workload ∈ accepted) : p.settled o application accepted w = (.ok app, w') := by
  have hfound : lookSettled accepted (some app) = .ok app := if_pos (settled_iff.mpr ⟨hstatus, hunits⟩)
  have hlook : lookAt o application accepted w = (.ok (.ok app), w') := by
    unfold lookAt
    rw [Act.bind_of_ok h, hfound]
    rfl
  have hstop : ¬ p.GoesOn (lookAt o application accepted) w.now w := by
    rintro ⟨observed, hresult, -⟩
    rw [hlook] at hresult
    cases hresult
  have huntil : p.settled o application accepted w = _ := loop_stop hstop p.mostDelays
  rw [huntil, hlook]
  rfl

/-! ## Units -/

/-- A look at a unit of an application, when only the end of its upgrade will do. -/
def lookAtUnit (o : Orchestrator) (application unit : String) : Act σ (Except String Unit) := do
  return lookUpgraded unit (← o.ask (.application application))

omit [Host σ] in
theorem lookUpgraded_eq_ok {unit : String} {found : Option Application} (h : lookUpgraded unit found = .ok ()) :
    ∃ app x, found = some app ∧ app.units.get? unit = some x ∧ x.upgraded = true := by
  unfold lookUpgraded at h
  cases hx : found.bind fun app => app.units.get? unit with
  | none =>
    rw [hx] at h
    cases h
  | some x =>
    obtain ⟨app, hfound, hunit⟩ := Option.bind_eq_some_iff.mp hx
    refine ⟨app, x, hfound, hunit, ?_⟩
    rw [hx] at h
    dsimp only at h
    split at h
    · assumption
    · cases h

/-- When the wait for a unit ends well, it was just read that the unit reports the end of its upgrade. -/
theorem read_of_upgraded {o : Orchestrator} {application unit : String} {w' : World σ}
    (h : p.upgraded o application unit w = (.ok (), w')) :
    ∃ i app x,
      o.ask (.application application) ((lookAtUnit o application unit).turn p.delay w i) = (.ok (some app), w') ∧
        app.units.get? unit = some x ∧ x.upgraded = true := by
  obtain ⟨i, hlook⟩ : ∃ i, lookAtUnit o application unit ((lookAtUnit o application unit).turn p.delay w i) =
      (.ok (.ok ()), w') := loop_eq_ok h
  obtain ⟨found, w₁, hask, hend⟩ := Act.bind_eq_ok hlook
  obtain ⟨hfound, rfl⟩ := Prod.mk.inj hend
  obtain ⟨app, x, rfl, hunit, hupgraded⟩ := lookUpgraded_eq_ok (Except.ok.inj hfound)
  exact ⟨i, app, x, hask, hunit, hupgraded⟩

/-! ## What waiting amounts to -/

/-- What waiting amounts to under a policy, for anything that is looked for and for an application with its units. -/
structure Watches (σ : Type) [Host σ] (p : Wait) : Prop where
  looks : ∀ {α : Type} (target expected : String) (look : Act σ (Except String α)), look.Forward →
    ∀ w, ∃ k, p.Looks target expected look w k
  settled : ∀ (o : Orchestrator) (application : String) (accepted : List String) (w : World σ), ∃ k,
    p.Looks application (String.intercalate "|" accepted) (lookAt o application accepted) w k ∧
    ∀ app w', p.settled o application accepted w = (.ok app, w') →
      o.ask (.application application) ((lookAt o application accepted).turn p.delay w k) = (.ok (some app), w') ∧
        app.status ∈ accepted ∧ app.units.All fun u => u.workload ∈ accepted

/-- Waiting with a delay ends, in time and with what was seen last. -/
theorem watches (hdelay : 0 < p.delay) : p.Watches σ := by
  constructor
  case looks => exact fun target expected look hforward w => exists_looks hdelay target expected hforward w
  case settled =>
    intro o application accepted w
    obtain ⟨k, hlooks⟩ := exists_looks hdelay application (String.intercalate "|" accepted)
      (lookAt_forward o application accepted) w
    refine ⟨k, hlooks, fun app w' h => ?_⟩
    have huntil := hlooks.until_eq.symm.trans h
    generalize (lookAt o application accepted).turn p.delay w k = last at huntil
    obtain ⟨hverdict, hworld⟩ := Prod.mk.inj huntil
    exact read_of_lookAt (Prod.ext (eq_of_verdict hverdict) hworld)

theorem watches_obliging : 0 < (ofConfig .default).delay ∧ (ofConfig .default).Watches Obliging :=
  have hdelay : 0 < (ofConfig .default).delay := by decide
  ⟨hdelay, watches hdelay⟩

end Rollout.Wait
