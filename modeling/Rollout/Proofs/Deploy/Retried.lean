import Rollout.Proofs.Deploy.Settled

/-!
# Rollout.Proofs.Deploy.Retried — a plan applied over many runs

Runs of the steps that apply one plan follow one another, each with a host, a clock and files of its own, and find the
store as the run before left it.  Whatever fails in them, all of them are after the variables that follow from what was
there before the first.

* `PlanApply.Round`, `PlanApply.Rounds`: runs over one store.
* `PlanApply.Rounds.round`: the variables that are due stay the same from run to run.
* `PlanApply.rounds_converge`: nothing but these variables is ever applied or persisted.
-/

namespace Rollout.PlanApply

variable {σ : Type}

/-- One run of a step, and the world it starts in. -/
structure Round (σ : Type) where
  step : Step σ
  before : World σ

namespace Round

/-- How it ends. -/
def outcome (r : Round σ) : Except Panic Outcome := (r.step.body r.before).1

/-- The world it leaves. -/
def after (r : Round σ) : World σ := (r.step.body r.before).2

/-- What it did. -/
def trace (r : Round σ) : List Event := r.after.since r.before

end Round

variable [Host σ] {p : PlanApply} {endpoint : Option String} {store : Table Json} {rs : List (Round σ)}

/-- Runs of steps that apply a plan, from a store on: each finds the store as the one before left it. -/
inductive Rounds (p : PlanApply) : Table Json → List (Round σ) → Prop
  | nil (store : Table Json) : Rounds p store []
  | cons {r : Round σ} {rs : List (Round σ)} (hstep : p.Deploys r.step) (hrest : Rounds p r.after.store rs) :
    Rounds p r.before.store (r :: rs)

/-- What holds of runs from a store on, with the variables that are due at its start. -/
structure Converges (p : PlanApply) (store : Table Json) (rs : List (Round σ)) : Prop where
  /-- Every apply command is started with exactly these variables in the file of the plan. -/
  started : ∀ r ∈ rs, ∀ c files, .command c files ∈ r.trace → c.args.head? = some "apply" →
    files.read r.before.here p.file = .ok (Json.ofTable (p.due store)).compact
  /-- Nothing lasts but that they are persisted. -/
  only : ∀ e ∈ rs.flatMap Round.trace, e.changes = true → e = p.persisted (p.due store)
  /-- Before that the store is as it was at the start. -/
  kept : ∀ t₁ t₂, rs.flatMap Round.trace = t₁ ++ t₂ → p.persisted (p.due store) ∉ t₁ → Store.replay store t₁ = store
  /-- From then on it holds them, and everything else as it was at the start. -/
  held : ∀ t₁ t₂, rs.flatMap Round.trace = t₁ ++ t₂ → p.persisted (p.due store) ∈ t₁ →
    Store.replay store t₁ = store.insert p.key (.ofTable (p.due store))
  /-- The store of every run is the one that its trace tells of. -/
  stores : ∀ rs₁ r rs₂, rs = rs₁ ++ r :: rs₂ → r.before.store = Store.replay store (rs₁.flatMap Round.trace) ∧
    r.after.store = Store.replay r.before.store r.trace
  /-- They are persisted right after an apply command of the same run that ended well. -/
  applied : ∀ r ∈ rs, ∀ t₁ t₂, r.trace = t₁ ++ p.persisted (p.due store) :: t₂ →
    Host.Succeeds r.before.here r.before.host "apply" t₁
  /-- A run that completes leaves them persisted. -/
  completed : ∀ r ∈ rs, r.outcome.map Outcome.kind = .ok .completed →
    r.after.store.get? p.key = some (.ofTable (p.due store))

/-- How one run ends, told of the trace that its log shows. -/
theorem Deploys.round {r : Round σ} (h : p.Deploys r.step) (hreg : p.registry = .shared endpoint)
    (hsorted : p.desired.Sorted) : r.before.Leads r.trace r.after ∧ p.Acts r.before r.trace ∧
      (r.outcome.map Outcome.kind = .ok .completed → p.persisted (p.due r.before.store) ∈ r.trace) := by
  obtain ⟨t, hl, hacts, hcompleted⟩ := h.ends hreg hsorted r.before
  have htrace : r.trace = t := hl.since_eq
  rw [htrace]
  exact ⟨hl, hacts, hcompleted⟩

omit [Host σ] in
/-- The variables that are due are due again once they are persisted. -/
theorem due_insert (hsorted : p.desired.Sorted) (store : Table Json) :
    p.due (store.insert p.key (.ofTable (p.due store))) = p.due store := by
  have hentry : Variables.ofEntry ((store.insert p.key (.ofTable (p.due store))).get? p.key) = p.due store := by
    rw [Table.get?_insert_self, Variables.ofEntry_ofTable (due_sorted hsorted store)]
  show p.desired.over (Variables.ofEntry ((store.insert p.key (.ofTable (p.due store))).get? p.key)) = p.due store
  rw [hentry]
  exact hsorted.over_over _

/-- A run leaves the same variables due. -/
theorem Deploys.due_after {r : Round σ} (h : p.Deploys r.step) (hreg : p.registry = .shared endpoint)
    (hsorted : p.desired.Sorted) : p.due r.after.store = p.due r.before.store := by
  obtain ⟨hl, hacts, -⟩ := h.round hreg hsorted
  obtain ⟨hkept, hput⟩ := replay_of_only hacts.only r.before.store
  rw [hl.store]
  by_cases hmem : p.persisted (p.due r.before.store) ∈ r.trace
  · rw [hput hmem, due_insert hsorted]
  · rw [hkept hmem]

/-- How each of the runs ends: it is after the variables that were due at the start. -/
theorem Rounds.round (h : p.Rounds store rs) (hreg : p.registry = .shared endpoint) (hsorted : p.desired.Sorted) :
    ∀ r ∈ rs, r.before.Leads r.trace r.after ∧ p.Acts r.before r.trace ∧ p.due r.before.store = p.due store ∧
      (r.outcome.map Outcome.kind = .ok .completed → p.persisted (p.due store) ∈ r.trace) := by
  induction h with
  | nil store => exact fun r hr => nomatch hr
  | @cons r rs hstep _ ih =>
    intro r' hr'
    rcases List.mem_cons.mp hr' with rfl | hr'
    · obtain ⟨hl, hacts, hcompleted⟩ := hstep.round hreg hsorted
      exact ⟨hl, hacts, rfl, hcompleted⟩
    · have hdue := hstep.due_after hreg hsorted
      obtain ⟨hl, hacts, hdue', hcompleted⟩ := ih r' hr'
      rw [hdue] at hdue' hcompleted
      exact ⟨hl, hacts, hdue', hcompleted⟩

/-- Each run finds the store that the traces of those before it tell of. -/
theorem Rounds.before_store (h : p.Rounds store rs) (hreg : p.registry = .shared endpoint)
    (hsorted : p.desired.Sorted) : ∀ rs₁ r rs₂, rs = rs₁ ++ r :: rs₂ →
      r.before.store = Store.replay store (rs₁.flatMap Round.trace) := by
  induction h with
  | nil store => exact fun rs₁ r rs₂ hrs => absurd hrs (by simp)
  | @cons r rs hstep _ ih =>
    intro rs₁ r' rs₂ hrs
    cases rs₁ with
    | nil =>
      obtain ⟨rfl, -⟩ := List.cons.inj hrs
      rfl
    | cons r₁ rs₁ =>
      obtain ⟨rfl, hrest⟩ := List.cons.inj hrs
      obtain ⟨hl, -, -⟩ := hstep.round hreg hsorted
      rw [ih rs₁ r' rs₂ hrest, hl.store, List.flatMap_cons, Store.replay_append]

/-- Runs of the steps that apply a plan converge to one set of variables, wherever each of them fails. -/
theorem rounds_converge (hreg : p.registry = .shared endpoint) (hsorted : p.desired.Sorted)
    (h : p.Rounds store rs) : p.Converges store rs := by
  have hround := h.round hreg hsorted
  have honly : ∀ e ∈ rs.flatMap Round.trace, e.changes = true → e = p.persisted (p.due store) := by
    intro e he hchanges
    obtain ⟨r, hr, he⟩ := List.mem_flatMap.mp he
    obtain ⟨-, hacts, hdue, -⟩ := hround r hr
    rw [← hdue]
    exact hacts.only e he hchanges
  have hreplay := fun t₁ t₂ (ht : rs.flatMap Round.trace = t₁ ++ t₂) =>
    replay_of_only (fun e he => honly e (ht ▸ List.mem_append_left t₂ he)) store
  constructor
  case started =>
    intro r hr c files he hverb
    obtain ⟨-, hacts, hdue, -⟩ := hround r hr
    rw [← hdue]
    exact hacts.started c files he hverb
  case only => exact honly
  case kept => exact fun t₁ t₂ ht => (hreplay t₁ t₂ ht).1
  case held => exact fun t₁ t₂ ht => (hreplay t₁ t₂ ht).2
  case stores =>
    intro rs₁ r rs₂ hrs
    have hr : r ∈ rs := by simp [hrs]
    exact ⟨h.before_store hreg hsorted rs₁ r rs₂ hrs, (hround r hr).1.store⟩
  case applied =>
    intro r hr t₁ t₂ ht
    obtain ⟨-, hacts, hdue, -⟩ := hround r hr
    rw [← hdue] at ht
    exact hacts.succeeds ht
  case completed =>
    intro r hr hkind
    obtain ⟨hl, hacts, hdue, hcompleted⟩ := hround r hr
    have hput : p.persisted (p.due r.before.store) ∈ r.trace := by
      rw [hdue]
      exact hcompleted hkind
    rw [hl.store, (replay_of_only hacts.only _).2 hput, hdue]
    exact Table.get?_insert_self _ _ _

/-- A run of the plan where a directory stands in the place of the file of the variables. -/
def blocked : Round Obliging :=
  ⟨small.step false, { Obliging.world "keystone" with files := ⟨Table.empty.insert "/terraform.tfvars.json" .directory⟩ }⟩

/-- A run of the plan after that, and a run that deploys its application as well. -/
def unblocked : Round Obliging := ⟨small.step false, { Obliging.world "keystone" with store := blocked.after.store }⟩

def deploying : Round Obliging := ⟨smallApp.step true, { Obliging.world "keystone" with store := unblocked.after.store }⟩

theorem rounds_converge_small : small.registry = .shared none ∧ small.desired.Sorted ∧
    small.Rounds Table.empty [blocked, unblocked, deploying] ∧
    [blocked, unblocked, deploying].map (fun r => r.outcome.map Outcome.kind) =
      [.ok .failed, .ok .completed, .ok .completed] ∧
    small.Converges Table.empty [blocked, unblocked, deploying] := by
  have hrounds : small.Rounds Table.empty [blocked, unblocked, deploying] := by
    refine .cons (r := blocked) (.apply false) ?_
    refine .cons (r := unblocked) (.apply false) ?_
    exact .cons (r := deploying) (.application smallApp rfl true) (.nil _)
  exact ⟨rfl, small_sorted, hrounds, by decide +kernel, rounds_converge rfl small_sorted hrounds⟩

end Rollout.PlanApply
