import Rollout.Proofs.Config.Bindings
import Rollout.Proofs.Config.Review
import Rollout.Proofs.Number.Written

/-!
# Rollout.Proofs.Config.Findings — what a review finds, and where

A configuration is found no fault with if and only if it keeps all rules for configurations.  What is said of a plan can
be told from what is said of any other by its path, so the findings at one member of a plan are those of one check.

* `Config.WellFormed`: the rules; `Config.errors_eq_nil_iff`: they are kept if and only if there are no findings.
* `Config.wellFormed_of_accept`: an accepted configuration keeps them.
* `Config.planPath_append_inj`: the path of a member of a plan tells which plan and which member it is.
* `Config.findingsAt`: the findings at one member; `Config.errors_at`: those at a member of a plan are of this plan.
* `Config.Verdict`, `Config.review_verdict`: the verdict on a configuration, and what is found of its plans.
-/

namespace Rollout.Config

variable {c : Config} {p : Plan} {i j : Nat} {s t field check : String} {b : Bool}

/-! ## The rules -/

/-- What a configuration has to be like. -/
structure WellFormed (c : Config) : Prop where
  address : ∀ a ∈ c.registry.address, ∃ url, Url.parse? a = some url
  served : c.registry.backend = .http → ∃ a ∈ c.registry.address, a ≠ ""
  parallelism : ∀ n ∈ c.provisioner.parallelism, 1 ≤ n ∧ n ≤ 256
  applyTimeout : 1 ≤ c.provisioner.applyTimeout
  commandTimeout : 1 ≤ c.provisioner.commandTimeout
  interval : 1 ≤ c.retry.interval
  deadline : 1 ≤ c.retry.deadline
  model : c.orchestrator.model ≠ ""
  pollInterval : 1 ≤ c.orchestrator.pollInterval
  waitTimeout : 1 ≤ c.orchestrator.waitTimeout
  accepted : c.orchestrator.acceptedStatuses ≠ []
  named : ∀ p ∈ c.plans, p.name ≠ ""
  keyed : ∀ p ∈ c.plans, p.key ≠ ""
  application : c.upgrade.application ≠ ""
  component : c.upgrade.component ≠ ""
  stateKey : c.upgrade.stateKey ≠ ""
  apart : c.Apart
  bound : ∀ p ∈ c.plans, ∀ v, ¬ p.bindings.Twice v

theorem require_eq_nil : require b field check = [] ↔ b = true := by cases b <;> simp [require]

theorem planMembers_eq_nil : planMembers i p = [] ↔ p.name ≠ "" ∧ p.key ≠ "" := by
  simp [planMembers, require_eq_nil]

theorem memberErrors_eq_nil : c.memberErrors = [] ↔ c.memberChecks = [] :=
  ⟨fun h => List.nil_perm.mp (h ▸ List.mergeSort_perm _ _), fun h => by rw [memberErrors, h, List.mergeSort_nil]⟩

/-- A plan among others, by its place. -/
theorem forall_zipIdx {P : Plan → Prop} : (∀ x ∈ c.plans.zipIdx, P x.1) ↔ ∀ p ∈ c.plans, P p := by
  constructor
  · intro h p hp
    obtain ⟨i, hi⟩ := List.getElem?_of_mem hp
    exact h (p, i) (List.mem_zipIdx_iff_getElem?.mpr hi)
  · intro h x hx
    exact h x.1 (List.mem_of_getElem? (List.mem_zipIdx_iff_getElem?.mp hx))

theorem registryErrors_eq_nil :
    c.registryErrors = [] ↔ (c.registry.backend = .http → ∃ a ∈ c.registry.address, a ≠ "") := by
  unfold registryErrors
  cases c.registry.address with
  | none => simp
  | some a => simp

/-- Nothing is repeated if nothing stands among what is before it. -/
theorem nodup_map_iff_fresh {α : Type} {l : List Plan} {f : Plan → α} :
    (l.map f).Nodup ↔ ∀ i (h : i < l.length), f l[i] ∉ (l.take i).map f := by
  rw [List.Nodup, List.pairwise_map, List.pairwise_iff_getElem]
  constructor
  · intro h i hi hmem
    obtain ⟨q, hq, heq⟩ := List.mem_map.mp hmem
    obtain ⟨j, hj, rfl⟩ := List.mem_take_iff_getElem.mp hq
    exact h j i (by omega) hi (by omega) heq
  · intro h i j hi hj hij heq
    exact h j hj (List.mem_map.mpr ⟨l[i], List.mem_take_iff_getElem.mpr ⟨i, by omega, rfl⟩, heq⟩)

theorem bindingErrors_eq_nil {bindings : Bindings} :
    bindingErrors i bindings = [] ↔ ∀ v, ¬ bindings.Twice v := by
  simp [bindingErrors, List.eq_nil_iff_forall_not_mem, Bindings.mem_duplicates]

theorem planErrorsAt_eq_nil {stateKey : String} {before : List Plan} : planErrorsAt stateKey before i p = [] ↔
    p.name ∉ before.map (·.name) ∧ p.key ∉ before.map (·.key) ∧ p.key ≠ stateKey ∧ ∀ v, ¬ p.bindings.Twice v := by
  unfold planErrorsAt
  simp only [List.append_eq_nil_iff, ite_eq_right_iff, List.cons_ne_nil, imp_false, List.contains_iff_mem,
    bindingErrors_eq_nil, and_assoc]

theorem planErrors_eq_nil : c.planErrors = [] ↔ c.Apart ∧ ∀ p ∈ c.plans, ∀ v, ¬ p.bindings.Twice v := by
  have hplaces : c.planErrors = [] ↔ ∀ i (h : i < c.plans.length),
      planErrorsAt c.upgrade.stateKey (c.plans.take i) i c.plans[i] = [] := by
    rw [planErrors, List.flatMap_eq_nil_iff]
    constructor
    · intro h i hi
      exact h (c.plans[i], i) (List.mem_zipIdx_iff_getElem?.mpr (List.getElem?_eq_getElem hi))
    · rintro h ⟨p, i⟩ hp
      have hget : c.plans[i]? = some p := List.mem_zipIdx_iff_getElem?.mp hp
      obtain ⟨hi, rfl⟩ := List.getElem?_eq_some_iff.mp hget
      exact h i hi
  have hmembers (P : Plan → Prop) : (∀ i (h : i < c.plans.length), P c.plans[i]) ↔ ∀ p ∈ c.plans, P p :=
    List.forall_mem_iff_getElem.symm
  rw [hplaces]
  simp only [planErrorsAt_eq_nil, forall_and, ← nodup_map_iff_fresh]
  rw [hmembers (·.key ≠ c.upgrade.stateKey), hmembers (∀ v, ¬ ·.bindings.Twice v)]
  constructor
  · rintro ⟨hnames, hkeys, hstate, hbound⟩
    exact ⟨⟨hnames, hkeys, hstate⟩, hbound⟩
  · rintro ⟨⟨hnames, hkeys, hstate⟩, hbound⟩
    exact ⟨hnames, hkeys, hstate, hbound⟩

/-- There are no findings if and only if all rules are kept. -/
theorem errors_eq_nil_iff : c.review.errors = [] ↔ c.WellFormed := by
  have happended : c.review.errors = [] ↔ c.memberErrors = [] ∧ c.registryErrors = [] ∧ c.planErrors = [] := by
    simp [review]
  have haddress : c.registry.address.all (fun a => (Url.parse? a).isSome) = true ↔
      ∀ a ∈ c.registry.address, ∃ url, Url.parse? a = some url := by
    simp [Option.all_eq_true, Option.isSome_iff_exists]
  have hparallelism : c.provisioner.parallelism.all (fun n => 1 ≤ n && n ≤ 256) = true ↔
      ∀ n ∈ c.provisioner.parallelism, 1 ≤ n ∧ n ≤ 256 := by
    simp [Option.all_eq_true]
  rw [happended, memberErrors_eq_nil, registryErrors_eq_nil, planErrors_eq_nil]
  simp only [memberChecks, List.append_eq_nil_iff, require_eq_nil, haddress, hparallelism, decide_eq_true_eq,
    List.flatMap_eq_nil_iff, planMembers_eq_nil, forall_zipIdx (P := fun p => p.name ≠ "" ∧ p.key ≠ ""), and_assoc]
  constructor
  · rintro ⟨address, parallelism, applyTimeout, commandTimeout, interval, deadline, model, pollInterval, waitTimeout,
      accepted, plans, application, component, stateKey, served, apart, bound⟩
    exact {
      address, parallelism, applyTimeout, commandTimeout, interval, deadline, model, pollInterval, waitTimeout,
      accepted, application, component, stateKey, served, apart, bound
      named := fun p hp => (plans p hp).1
      keyed := fun p hp => (plans p hp).2 }
  · intro h
    exact ⟨h.address, h.parallelism, h.applyTimeout, h.commandTimeout, h.interval, h.deadline, h.model, h.pollInterval,
      h.waitTimeout, h.accepted, fun p hp => ⟨h.named p hp, h.keyed p hp⟩, h.application, h.component, h.stateKey,
      h.served, h.apart, h.bound⟩

theorem accept_eq_ok_iff {review : Review} : c.accept = .ok review ↔ c.review.errors = [] ∧ review = c.review := by
  unfold accept
  cases c.review.errors with
  | nil => simp [eq_comm]
  | cons e rest => simp

theorem wellFormed_of_accept {review : Review} (h : c.accept = .ok review) : c.WellFormed :=
  errors_eq_nil_iff.mp (accept_eq_ok_iff.mp h).1

/-! ## The path of a finding -/

theorem toList_planPath_append (i : Nat) (s : String) :
    (planPath i ++ s).toList = "plans[".toList ++ (Nat.toDigits 10 i ++ ']' :: s.toList) := by
  simp [planPath]

/-- The path of a member of a plan tells which plan and which member it is. -/
theorem planPath_append_inj : planPath i ++ s = planPath j ++ t ↔ i = j ∧ s = t := by
  constructor
  · intro h
    have hlists := congrArg String.toList h
    rw [toList_planPath_append, toList_planPath_append] at hlists
    have hmarked (i : Nat) : ∀ c ∈ Nat.toDigits 10 i, c ≠ ']' := (digits_toDigits i).ne rfl
    obtain ⟨hdigits, hrest⟩ := mark_cancel (hmarked i) (hmarked j) (by simp) (by simp) (List.append_cancel_left hlists)
    have hnumbers := congrArg (Nat.ofDigitChars 10 · 0) hdigits
    simp only [Nat.ofDigitChars_toDigits (b := 10) (by decide) (by decide)] at hnumbers
    exact ⟨hnumbers, String.toList_inj.mp (List.cons.inj hrest).2⟩
  · rintro ⟨rfl, rfl⟩
    rfl

/-- The findings at one member. -/
def findingsAt (field : String) (found : List Finding) : List Finding := found.filter (·.field = field)

theorem findingsAt_append (found found' : List Finding) :
    findingsAt field (found ++ found') = findingsAt field found ++ findingsAt field found' := List.filter_append ..

theorem findingsAt_require : findingsAt t (require b s check) = if s = t then require b s check else [] := by
  cases b <;> by_cases h : s = t <;> simp [findingsAt, require, failed, h]

theorem findingsAt_flatMap {α : Type} (l : List α) (f : α → List Finding) :
    findingsAt field (l.flatMap f) = l.flatMap fun a => findingsAt field (f a) := List.filter_flatMap

theorem findingsAt_ite {P : Prop} [Decidable P] (e : Finding) :
    findingsAt field (if P then [e] else []) = if e.field = field then if P then [e] else [] else [] := by
  by_cases hP : P <;> by_cases he : e.field = field <;> simp [findingsAt, hP, he]

theorem findingsAt_bindingErrors (bindings : Bindings) : findingsAt field (bindingErrors i bindings) =
    if planPath i ++ ".tfvars" = field then bindingErrors i bindings else [] := by
  unfold findingsAt bindingErrors
  rw [List.filter_map]
  by_cases h : planPath i ++ ".tfvars" = field <;> simp [Function.comp_def, h]

/-- A path that does not begin like that of a plan is not that of a member of a plan. -/
theorem planPath_append_ne (h : s.toList.take 6 ≠ "plans[".toList) : s ≠ planPath i ++ t := by
  rintro rfl
  rw [toList_planPath_append] at h
  exact h (List.take_left' rfl)

/-- What is checked elsewhere is not found at a member of a plan. -/
theorem findingsAt_elsewhere (h : s.toList.take 6 ≠ "plans[".toList) :
    findingsAt (planPath i ++ t) (require b s check) = [] := by
  rw [findingsAt_require, if_neg (planPath_append_ne h)]

theorem findingsAt_planMembers {q : Plan} : findingsAt (planPath i ++ t) (planMembers j q) =
    (if j = i ∧ ".name" = t then require (q.name ≠ "") (planPath j ++ ".name") "length" else []) ++
      if j = i ∧ ".config_key" = t then require (q.key ≠ "") (planPath j ++ ".config_key") "length" else [] := by
  rw [planMembers, findingsAt_append, findingsAt_require, findingsAt_require]
  simp only [planPath_append_inj]

/-- Where only one plan is concerned, only this plan is looked at. -/
theorem flatMap_zipIdx {f : Plan × Nat → List Finding} (hp : c.plans[i]? = some p)
    (hother : ∀ q j, j ≠ i → f (q, j) = []) : c.plans.zipIdx.flatMap f = f (p, i) := by
  obtain ⟨hi, rfl⟩ := List.getElem?_eq_some_iff.mp hp
  have hsplit : c.plans = c.plans.take i ++ c.plans[i] :: c.plans.drop (i + 1) := by simp
  have hlength : (c.plans.take i).length = i := by simp [Nat.min_eq_left (Nat.le_of_lt hi)]
  have hbefore : (c.plans.take i).zipIdx.flatMap f = [] := by
    refine List.flatMap_eq_nil_iff.mpr ?_
    rintro ⟨q, j⟩ hq
    have hj := List.snd_lt_of_mem_zipIdx hq
    exact hother q j (by omega)
  have hafter : ((c.plans.drop (i + 1)).zipIdx (i + 1)).flatMap f = [] := by
    refine List.flatMap_eq_nil_iff.mpr ?_
    rintro ⟨q, j⟩ hq
    have hj := List.le_snd_of_mem_zipIdx hq
    exact hother q j (by omega)
  conv_lhs => rw [hsplit]
  rw [List.zipIdx_append, List.zipIdx_cons, List.flatMap_append, List.flatMap_cons, hbefore, hlength, Nat.zero_add,
    hafter, List.append_nil, List.nil_append]

theorem memberChecks_at (hp : c.plans[i]? = some p) (t : String) :
    findingsAt (planPath i ++ t) c.memberChecks = findingsAt (planPath i ++ t) (planMembers i p) := by
  unfold memberChecks
  simp (disch := decide) only [findingsAt_append, findingsAt_elsewhere, List.nil_append, List.append_nil]
  rw [findingsAt_flatMap]
  refine flatMap_zipIdx (f := fun x => findingsAt (planPath i ++ t) (planMembers x.2 x.1)) hp fun q j hj => ?_
  simp [findingsAt_planMembers, hj]

/-- At a member of a plan there is one check of its own at most, so it does not matter that findings are sorted. -/
theorem memberErrors_at (hp : c.plans[i]? = some p) (t : String) :
    findingsAt (planPath i ++ t) c.memberErrors = findingsAt (planPath i ++ t) (planMembers i p) := by
  have hperm : (findingsAt (planPath i ++ t) c.memberErrors).Perm (findingsAt (planPath i ++ t) c.memberChecks) :=
    (List.mergeSort_perm _ _).filter _
  rw [memberChecks_at hp] at hperm
  have hone : (findingsAt (planPath i ++ t) (planMembers i p)).length ≤ 1 := by
    have hrequire (b : Bool) (s : String) : (require b s "length").length ≤ 1 := by cases b <;> simp [require]
    rw [findingsAt_planMembers]
    by_cases hname : ".name" = t
    · subst hname
      simpa using hrequire _ _
    · by_cases hkey : ".config_key" = t
      · subst hkey
        simpa using hrequire _ _
      · simp [hname, hkey]
  cases hfound : findingsAt (planPath i ++ t) (planMembers i p) with
  | nil => exact List.perm_nil.mp (hfound ▸ hperm)
  | cons e rest =>
    obtain rfl : rest = [] := by simpa [hfound] using hone
    exact List.perm_singleton.mp (hfound ▸ hperm)

theorem planErrorsAt_at {stateKey : String} {before : List Plan} :
    findingsAt (planPath i ++ t) (planErrorsAt stateKey before j p) =
      if j = i then findingsAt (planPath i ++ t) (planErrorsAt stateKey before i p) else [] := by
  by_cases h : j = i
  · subst h
    rw [if_pos rfl]
  · unfold planErrorsAt
    simp only [findingsAt_append, findingsAt_ite, findingsAt_bindingErrors, planPath_append_inj, h, false_and, if_false,
      List.append_nil]

/-- What is found at a member of a plan is found of this plan. -/
theorem errors_at (hp : c.plans[i]? = some p) (t : String) : findingsAt (planPath i ++ t) c.review.errors =
    findingsAt (planPath i ++ t) (planMembers i p) ++
      findingsAt (planPath i ++ t) (planErrorsAt c.upgrade.stateKey (c.plans.take i) i p) := by
  have hregistry : findingsAt (planPath i ++ t) c.registryErrors = [] := by
    rw [registryErrors, findingsAt_ite, if_neg (planPath_append_ne (by decide))]
  have hplans : findingsAt (planPath i ++ t) c.planErrors =
      findingsAt (planPath i ++ t) (planErrorsAt c.upgrade.stateKey (c.plans.take i) i p) := by
    rw [planErrors, findingsAt_flatMap]
    refine flatMap_zipIdx
      (f := fun x => findingsAt (planPath i ++ t) (planErrorsAt c.upgrade.stateKey (c.plans.take x.2) x.2 x.1)) hp
      fun q j hj => ?_
    rw [planErrorsAt_at, if_neg hj]
  rw [review, findingsAt_append, findingsAt_append, memberErrors_at hp, hregistry, List.append_nil, hplans]

/-! ## The verdict -/

/-- What is read off a plan is read off an earlier one as well. -/
def Recurs (c : Config) (f : Plan → String) (i : Nat) (p : Plan) : Prop := ∃ j < i, (c.plans[j]?).map f = some (f p)

instance (c : Config) (f : Plan → String) (i : Nat) (p : Plan) : Decidable (c.Recurs f i p) :=
  inferInstanceAs (Decidable (∃ j < i, (c.plans[j]?).map f = some (f p)))

theorem contains_iff_recurs {f : Plan → String} :
    ((c.plans.take i).map f).contains (f p) = true ↔ c.Recurs f i p := by
  rw [List.contains_iff_mem, List.mem_map]
  constructor
  · rintro ⟨q, hq, heq⟩
    obtain ⟨j, hj, rfl⟩ := List.mem_take_iff_getElem.mp hq
    exact ⟨j, by omega, by rw [List.getElem?_eq_getElem (by omega), Option.map_some, heq]⟩
  · rintro ⟨j, hj, hget⟩
    obtain ⟨q, hq, heq⟩ := Option.map_eq_some_iff.mp hget
    exact ⟨q, List.mem_of_getElem? (i := j) (by rw [List.getElem?_take_of_lt hj, hq]), heq⟩

/-- The verdict on a configuration.

* It is accepted, with its review, if and only if there are no findings, and that if and only if it keeps all rules.
* Otherwise it is refused for the first finding.
* The name of a plan is found to be repeated if and only if an earlier plan has it, and so is its key; beside that, they
  are found fault with where they are empty, and the key where it is that of the upgrade.
* Each variable that two attributes of a plan feed is found once, in the order of their bytes. -/
structure Verdict (c : Config) : Prop where
  accepted : ∀ review, c.accept = .ok review ↔ c.review.errors = [] ∧ review = c.review
  sound : c.review.errors = [] ↔ c.WellFormed
  refused : ∀ e rest, c.review.errors = e :: rest → c.accept = .error (.config (.invalid e.message (some e.field)))
  names : ∀ i p, c.plans[i]? = some p → findingsAt (planPath i ++ ".name") c.review.errors =
    (if p.name = "" then [failed (planPath i ++ ".name") "length"] else []) ++
      if c.Recurs (·.name) i p then [⟨planPath i ++ ".name", "Duplicate plan name: " ++ p.name⟩] else []
  keys : ∀ i p, c.plans[i]? = some p → findingsAt (planPath i ++ ".config_key") c.review.errors =
    (if p.key = "" then [failed (planPath i ++ ".config_key") "length"] else []) ++
      (if c.Recurs (·.key) i p then
        [⟨planPath i ++ ".config_key", "Registry key " ++ p.key ++ " is used by more than one plan"⟩] else []) ++
      if p.key = c.upgrade.stateKey then
        [⟨planPath i ++ ".config_key", "Registry key " ++ p.key ++ " collides with the database upgrade state key"⟩]
      else []
  bindings : ∀ i p, c.plans[i]? = some p → ∃ vars : List String,
    vars.Pairwise (fun v v' => Text.encode v < Text.encode v') ∧ (∀ v, v ∈ vars ↔ p.bindings.Twice v) ∧
      findingsAt (planPath i ++ ".tfvars") c.review.errors =
        vars.map fun v => ⟨planPath i ++ ".tfvars", "Variable " ++ v ++ " is bound more than once"⟩

theorem review_verdict (c : Config) : c.Verdict where
  accepted := fun _ => accept_eq_ok_iff
  sound := errors_eq_nil_iff
  refused := by
    intro e rest h
    unfold accept
    rw [h]
  names := by
    intro i p hp
    rw [errors_at hp, findingsAt_planMembers, planErrorsAt]
    simp only [findingsAt_append, findingsAt_ite, findingsAt_bindingErrors, planPath_append_inj, contains_iff_recurs]
    simp [require]
  keys := by
    intro i p hp
    rw [errors_at hp, findingsAt_planMembers, planErrorsAt]
    simp only [findingsAt_append, findingsAt_ite, findingsAt_bindingErrors, planPath_append_inj, contains_iff_recurs]
    simp [require]
  bindings := by
    intro i p hp
    refine ⟨p.bindings.duplicates, p.bindings.pairwise_duplicates, fun v => Bindings.mem_duplicates, ?_⟩
    rw [errors_at hp, findingsAt_planMembers, planErrorsAt]
    simp only [findingsAt_append, findingsAt_ite, findingsAt_bindingErrors, planPath_append_inj]
    simp [bindingErrors]

end Rollout.Config
