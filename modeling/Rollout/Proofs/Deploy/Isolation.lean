import Rollout.Proofs.Config.Review
import Rollout.Proofs.Deploy.Steps
import Rollout.Proofs.Obliging
import Rollout.Proofs.Plan

/-!
# Rollout.Proofs.Deploy.Isolation — plans and upgrades keep out of each other's way

In an accepted configuration every plan has a document of its own, and so has the upgrade of the database.  A run looks at
the document of its owner only and changes no other, however it ends.  In a history of runs each owner is served as if
nobody else had ever run.

* `Confined`: a run looks at one document only, and changes no other.
* `Deployment.run_confined`: every run of a procedure is confined to the document of its owner.
* `Deployment.History`: runs of procedures, one after the other.
* `Deployment.History.purge`: what the runs of others did can be left out.
* `Deployment.documents_isolated`: all of this for accepted configurations.
-/

namespace Rollout

variable {σ α : Type}

/-- The world with other documents. -/
def World.keeping (store : Table Json) (w : World σ) : World σ := { w with store }

/-- `x` accesses the document of a key only: it leaves all others alone, and what they are does not matter to it. -/
structure Confined (key : String) (x : World σ → α × World σ) : Prop where
  accesses : ∀ w, ∀ e ∈ (x w).2.since w, e.At key
  others : ∀ w other, other ≠ key → (x w).2.store.get? other = w.store.get? other
  blind : ∀ (w : World σ) store, store.get? key = w.store.get? key →
    (x (w.keeping store)).1 = (x w).1 ∧
      (x (w.keeping store)).2.since (w.keeping store) = (x w).2.since w ∧
      (x (w.keeping store)).2.store.get? key = (x w).2.store.get? key

theorem Within.confined {key : String} {x : World σ → α × World σ} (h : Within (Event.At key) x) : Confined key x where
  accesses w := (h.becomes w).since
  others w other hother := by
    refine (h.becomes w).store other fun a ha _ hkey => hother ?_
    have hat : a.key = key := ha
    exact hkey.symm.trans hat
  blind w store hsame := by
    have hkeeping : w.keeping store = w.amid [] store := by
      unfold World.keeping World.amid
      rw [List.append_nil]
    have hagree : Store.Agree (Event.At key) w.store store := by
      intro a ha
      have hat : a.key = key := ha
      rw [hat]
      exact hsame
    obtain ⟨store', hx, hagree'⟩ := h.blind w [] store hagree
    rw [hkeeping, hx, (h.becomes w).since_amid]
    exact ⟨rfl, rfl, hagree' (.get key) rfl⟩

/-! ## Runs of plans -/

section Runs

variable {E : Event → Prop} (hstatus : ∀ text, E (.status text))
include hstatus

theorem Step.visit_within {s : Step σ} (hcheck : Within E s.check) (hbody : Within E s.body) : Within E s.visit := by
  let rest (check : Outcome) (w : World σ) : Except Panic Visit × World σ :=
    if check.kind = .completed then ((s.body w).1.map fun o => ⟨check, some o⟩, (s.body w).2) else (.ok ⟨check, none⟩, w)
  have hrest (check : Outcome) : Within E (rest check) := by
    by_cases hkind : check.kind = .completed
    · simp only [rest, if_pos hkind]
      exact hbody.map (Except.map fun o => Visit.mk check (some o))
    · simp only [rest, if_neg hkind]
      exact within_idle _
  have hnoted : Within E fun w : World σ => ((), w.note (.status s.description)) :=
    within_of_apart (fun w => w.becomes_note (hstatus _)) (fun _ _ _ => rfl) fun _ => rfl
  exact (hnoted.before fun _ => hcheck).before hrest

theorem Plan.runSteps_within {steps : List (Step σ)} (h : ∀ s ∈ steps, Within E s.check ∧ Within E s.body)
    (last : Option Outcome) : Within E (Plan.runSteps last steps) := by
  induction steps generalizing last with
  | nil => exact within_idle _
  | cons s rest ih =>
    obtain ⟨hcheck, hbody⟩ := h s List.mem_cons_self
    have hafter (r : Except Panic Visit) : Within E (afterVisit last s rest r) := by
      cases r with
      | error p => exact within_idle _
      | ok v =>
        have hothers := ih (fun s hs => h s (List.mem_cons_of_mem _ hs)) (v.body.or last)
        unfold afterVisit
        by_cases hfailed : v.failed = true
        · simp only [if_pos hfailed]
          exact within_idle _
        · simp only [if_neg hfailed]
          exact hothers.map (Except.map fun ran => (v.record s :: ran.1, ran.2))
    have hcons : runSteps last (s :: rest) = fun w => afterVisit last s rest (s.visit w).1 (s.visit w).2 := by
      funext w
      exact runSteps_cons last s rest w
    rw [hcons]
    exact (Step.visit_within hstatus hcheck hbody).before hafter

theorem Plan.run_within {steps : List (Step σ)} (h : ∀ s ∈ steps, Within E s.check ∧ Within E s.body) (title : String) :
    Within E (Plan.run title steps) := by
  let report (ran : List StepRecord × Outcome) : PlanReport := ⟨title, ran.1, ran.2⟩
  exact (Plan.runSteps_within hstatus h none).map (Except.map report)

end Runs

namespace Deployment

variable [Host σ] {d : Deployment}

theorem run_confined {q : Procedure} {steps : List (Step σ)} (hsteps : d.steps q = .ok steps) :
    ∃ key, d.keyOf q.owner = some key ∧ ∀ title, Confined key (Plan.run title steps) := by
  obtain ⟨key, hkey, hminds⟩ := d.steps_mind hsteps
  refine ⟨key, hkey, fun title => (Plan.run_within (fun _ => trivial) (fun s hs => ?_) title).confined⟩
  exact ⟨(hminds s hs).check.mono fun _ => Looks.at, (hminds s hs).body⟩

/-! ## Histories -/

variable (d) in
/-- Runs of procedures, one after the other, with what each has reported, if it has not panicked; between two of them
anything may change but the documents. -/
inductive History : Table Json → List (Procedure × Except Panic PlanReport) → Table Json → Prop
  | none (store : Table Json) : History store [] store
  | next {q : Procedure} {steps : List (Step σ)} (hsteps : d.steps q = .ok steps) (title : String) (w : World σ)
    {rs : List (Procedure × Except Panic PlanReport)} {store : Table Json}
    (hrest : History (Plan.run title steps w).2.store rs store) :
    History w.store ((q, (Plan.run title steps w).1) :: rs) store

variable {store store' : Table Json} {rs : List (Procedure × Except Panic PlanReport)} {key : String}

/-- A document is changed by the runs of its owner only. -/
theorem History.kept (h : d.History (σ := σ) store rs store') (hother : ∀ r ∈ rs, d.keyOf r.1.owner ≠ some key) :
    store'.get? key = store.get? key := by
  induction h with
  | none store => rfl
  | @next q steps hsteps title w rs store' _ ih =>
    obtain ⟨own, hown, hconfined⟩ := run_confined hsteps
    have hne : key ≠ own := by
      rintro rfl
      exact hother _ List.mem_cons_self hown
    rw [ih fun r hr => hother r (List.mem_cons_of_mem _ hr)]
    exact (hconfined title).others w key hne

/-- The runs of others can be left out: all reports of the owner stay the same, and so does the document in the end. -/
theorem History.purge (hapart : ∀ o o' key, d.keyOf o = some key → d.keyOf o' = some key → o = o') {o : Option String}
    (hkey : d.keyOf o = some key) (h : d.History (σ := σ) store rs store') {begun : Table Json}
    (hbegun : begun.get? key = store.get? key) :
    ∃ left, d.History (σ := σ) begun (rs.filter fun r => r.1.owner = o) left ∧ left.get? key = store'.get? key := by
  induction h generalizing begun with
  | none store => exact ⟨begun, .none begun, hbegun⟩
  | @next q steps hsteps title w rs store' _ ih =>
    obtain ⟨own, hown, hconfined⟩ := run_confined hsteps
    by_cases howner : q.owner = o
    · rw [howner, hkey] at hown
      cases hown
      obtain ⟨hreport, -, hleft⟩ := (hconfined title).blind w begun hbegun
      obtain ⟨left, hhistory, hsame⟩ := ih hleft
      refine ⟨left, ?_, hsame⟩
      rw [List.filter_cons_of_pos (by simpa using howner), ← hreport]
      exact .next hsteps title (w.keeping begun) hhistory
    · have hne : key ≠ own := by
        rintro rfl
        exact howner (hapart _ _ _ hown hkey)
      have hkept := (hconfined title).others w key hne
      obtain ⟨left, hhistory, hsame⟩ := ih (hbegun.trans hkept.symm)
      refine ⟨left, ?_, hsame⟩
      rw [List.filter_cons_of_neg (by simpa using howner)]
      exact hhistory

/-- In a configuration whose plans are apart, no two owners have the same key. -/
theorem keyOf_injective (h : d.config.Apart) (o o' : Option String) (key : String) (ho : d.keyOf o = some key)
    (ho' : d.keyOf o' = some key) : o = o' := by
  have hplan {name : String} (hname : d.keyOf (some name) = some key) :
      ∃ p ∈ d.config.plans, p.name = name ∧ p.key = key := by
    obtain ⟨p, hfound, hkey⟩ := Option.map_eq_some_iff.mp hname
    obtain ⟨hp, hpname⟩ := Config.mem_of_plan? hfound
    exact ⟨p, hp, hpname, hkey⟩
  cases o with
  | none =>
    cases o' with
    | none => rfl
    | some name' =>
      obtain ⟨p, hp, -, hkey⟩ := hplan ho'
      cases ho
      exact absurd hkey (h.stateKey p hp)
  | some name =>
    obtain ⟨p, hp, hname, hkey⟩ := hplan ho
    cases o' with
    | none =>
      cases ho'
      exact absurd hkey (h.stateKey p hp)
    | some name' =>
      obtain ⟨p', hp', hname', hkey'⟩ := hplan ho'
      rw [← hname, ← hname', h.eq_of_key hp hp' (hkey.trans hkey'.symm)]

variable (σ d) in
/-- In an accepted configuration each plan owns the document of its key, the upgrade that of its own, and no document has
two owners.  Every run is confined to the document of its owner.  After any history of runs a document is as it was
unless its owner was at work, and it is what the runs of its owner alone would have left, with the same reports. -/
theorem documents_isolated {review : Config.Review} (haccept : d.config.accept = .ok review) :
    (∀ p ∈ d.config.plans, d.keyOf (some p.name) = some p.key) ∧
      (∀ o o' key, d.keyOf o = some key → d.keyOf o' = some key → o = o') ∧
      (∀ q (steps : List (Step σ)), d.steps q = .ok steps →
        ∃ key, d.keyOf q.owner = some key ∧ ∀ title, Confined key (Plan.run title steps)) ∧
      ∀ store rs store', d.History (σ := σ) store rs store' →
        (∀ key, (∀ r ∈ rs, d.keyOf r.1.owner ≠ some key) → store'.get? key = store.get? key) ∧
          ∀ o key, d.keyOf o = some key → ∃ left,
            d.History (σ := σ) store (rs.filter fun r => r.1.owner = o) left ∧ left.get? key = store'.get? key := by
  have hapart := Config.apart_of_accept haccept
  refine ⟨fun p hp => ?_, keyOf_injective hapart, fun q steps hsteps => run_confined hsteps, ?_⟩
  · simp [keyOf, hapart.plan?_eq hp]
  · intro store rs store' hhistory
    exact ⟨fun key hother => hhistory.kept hother, fun o key hkey => hhistory.purge (keyOf_injective hapart) hkey rfl⟩

/-- Two plans with keys of their own. -/
def pair : Deployment :=
  ⟨{ Config.default with plans :=
      [⟨"network", "/", "NetworkVars", Bindings.empty, none⟩, ⟨"storage", "/", "StorageVars", Bindings.empty, none⟩] },
    Manifest.empty, .shared none, .direct⟩

theorem documents_isolated_pair : ∃ (review : Config.Review) (rs : List (Procedure × Except Panic PlanReport))
    (store : Table Json), pair.config.accept = .ok review ∧
      pair.History (σ := Obliging) (Obliging.world "mysql").store rs store ∧
      rs.map (·.1.owner) = [some "network", none, some "storage"] ∧ (store.get? "NetworkVars").isSome = true ∧
      ∃ left, pair.History (σ := Obliging) (Obliging.world "mysql").store
          (rs.filter fun r => r.1.owner = some "network") left ∧
        left.get? "NetworkVars" = store.get? "NetworkVars" := by
  have hclean : pair.config.review.errors = [] := by decide +kernel
  have haccept := Config.accept_eq_ok hclean
  -- Each run starts where the one before has ended.
  have hhistory : pair.History (Obliging.world "mysql").store _ _ :=
    .next (q := .deploy "network" .default) rfl "deploy" (Obliging.world "mysql")
      (.next (q := .upgrade true) rfl "upgrade" _ (.next (q := .destroy "storage") rfl "destroy" _ (.none _)))
  obtain ⟨-, -, -, hruns⟩ := pair.documents_isolated Obliging haccept
  have hpurged := (hruns _ _ _ hhistory).2 (some "network") "NetworkVars" (by decide +kernel)
  exact ⟨_, _, _, haccept, hhistory, rfl, by decide +kernel, hpurged⟩

end Deployment

end Rollout
