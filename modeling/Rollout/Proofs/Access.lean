import Rollout.Proofs.Within
import Rollout.Registry.Basic

/-!
# Rollout.Proofs.Access — what accesses, calls and waits leave behind

An access to the shared store is noted with its success, and one that is refused has no effect.  A call to an
orchestrator is noted first; when a tool takes it, the commands that follow carry the verb of the call.

* `Event.changes`: the things done that last, which are the calls that change what runs and the accesses that change
  what is kept; `Act.Quiet` says of an action that it does no such thing.
* `Registry.get_ends`, `put_ends`, `delete_ends`, `deleteIfPresent_ends`: the accesses to the shared store.
* `Orchestrator.ask_ends`: a call.
* `Wait.settled_within`, `Wait.upgraded_within`: a wait does nothing but look.
-/

namespace Rollout

/-- Whether something done changes what the orchestrator runs or what the registry keeps. -/
def Event.changes : Event → Bool
  | .call c => c.changes
  | .access (.put ..) granted => granted
  | .access (.delete _) granted => granted
  | _ => false

/-- Of a row of things done those that change something. -/
def Event.changesOf (t : List Event) : List Event := t.filter Event.changes

theorem Event.changesOf_append (t t' : List Event) :
    Event.changesOf (t ++ t') = Event.changesOf t ++ Event.changesOf t' := List.filter_append ..

theorem Event.changesOf_eq_nil {t : List Event} (h : ∀ e ∈ t, e.changes = false) : Event.changesOf t = [] :=
  List.filter_eq_nil_iff.mpr fun e he => by simp [h e he]

theorem Event.not_changes_of_changesOf {t : List Event} (h : Event.changesOf t = []) {e : Event} (he : e ∈ t) :
    e.changes = false := Bool.eq_false_iff.mpr (List.filter_eq_nil_iff.mp h e he)

theorem Event.applyTo_of_not_changes {e : Event} (h : e.changes = false) (store : Table Json) :
    e.applyTo store = store := by
  cases e with
  | access a granted => cases a <;> cases granted <;> simp_all [Event.changes, Event.applyTo]
  | _ => rfl

/-- Only what changes something counts for the store. -/
theorem Store.replay_changesOf (store : Table Json) (t : List Event) :
    Store.replay store (Event.changesOf t) = Store.replay store t := by
  induction t generalizing store with
  | nil => rfl
  | cons e t ih =>
    by_cases h : e.changes
    · rw [Event.changesOf, List.filter_cons_of_pos h]
      exact ih _
    · rw [Event.changesOf, List.filter_cons_of_neg h, Store.replay_cons,
        Event.applyTo_of_not_changes (Bool.not_eq_true _ ▸ h)]
      exact ih _

/-- A trace in which nothing changes leads to the same documents. -/
theorem World.Leads.store_eq {σ : Type} {w w' : World σ} {t : List Event} (hl : w.Leads t w')
    (hquiet : ∀ e ∈ t, e.changes = false) : w'.store = w.store := by
  rw [hl.store, ← Store.replay_changesOf, Event.changesOf_eq_nil hquiet]
  rfl

/-- Whatever `x` does changes nothing that lasts. -/
def Act.Quiet {σ α : Type} (x : Act σ α) : Prop := x.Does fun e => e.changes = false

theorem Act.Quiet.store_eq {σ α : Type} {x : Act σ α} (h : x.Quiet) (w : World σ) : (x w).2.store = w.store := by
  obtain ⟨t, hl, hquiet⟩ := h w
  exact hl.store_eq hquiet

theorem Within.quiet {σ α : Type} {E : Event → Prop} {x : Act σ α} (h : Within E x) (hE : ∀ e, E e → e.changes = false) :
    x.Quiet := by
  have hlooks (a : Access) (ha : E (.access a true)) : a.looks = true := by
    have hkept := hE _ ha
    cases a with
    | get key => rfl
    | put key value => cases hkept
    | delete key => cases hkept
  intro w
  obtain ⟨t, hl, ht⟩ := h.does hlooks w
  exact ⟨t, hl, fun e he => hE e (ht e he)⟩

theorem Event.Gets.not_changes {key : String} {e : Event} (h : e.Gets key) : e.changes = false := by
  cases e with
  | access a granted =>
    obtain rfl : a = .get key := h
    rfl
  | file a => rfl
  | request r => rfl
  | _ => exact h.elim

theorem Event.Works.not_changes {e : Event} (h : e.Works) : e.changes = false := by
  cases e with
  | file a => rfl
  | command c files => rfl
  | _ => exact h.elim

variable {σ : Type} [Host σ]

/-- The host refuses no access by the pretence that a document is missing. -/
def Host.Candid (σ : Type) [Host σ] : Prop :=
  ∀ (a : Access) (s : σ) (f : Fault), (Host.refuse a s).1 = some f → ∀ key, f ≠ .registry (.notFound key)

/-! ## The shared store -/

namespace Registry

variable {reg : Registry} {endpoint : Option String} (hreg : reg = shared endpoint) (key : String) (w : World σ)
include hreg

/-- A document is read unless the host refuses. -/
theorem get_ends : (reg.get key).Ends w fun r t _ =>
    (r = .ok (w.store.get? key) ∧ t = [.access (.get key) true]) ∨
      ∃ f, r = .error f ∧ t = [.access (.get key) false] ∧ (Host.refuse (.get key) w.host).1 = some f := by
  subst hreg
  unfold Act.Ends get noted
  simp only [Store.get, Store.access, Act.asks]
  cases h : (Host.refuse (.get key) w.host).1 with
  | some f => exact ⟨_, (World.leads_host w _).trans (World.leads_note _ rfl), .inr ⟨f, rfl, rfl, rfl⟩⟩
  | none => exact ⟨_, (World.leads_host w _).trans (World.leads_note _ rfl), .inl ⟨rfl, rfl⟩⟩

theorem put_ends (value : Json) : (reg.put key value).Ends w fun r t _ =>
    (r = .ok () ∧ t = [.access (.put key value) true]) ∨
      ∃ f, r = .error f ∧ t = [.access (.put key value) false] ∧ (Host.refuse (.put key value) w.host).1 = some f := by
  subst hreg
  unfold Act.Ends put noted
  simp only [Store.put, Store.access]
  cases h : (Host.refuse (.put key value) w.host).1 with
  | some f => exact ⟨_, (World.leads_host w _).trans (World.leads_note _ rfl), .inr ⟨f, rfl, rfl, rfl⟩⟩
  | none => exact ⟨[.access (.put key value) true], ⟨rfl, rfl, Nat.le_refl _, rfl, rfl⟩, .inl ⟨rfl, rfl⟩⟩

theorem delete_ends : (reg.delete key).Ends w fun r t _ =>
    (r = .ok () ∧ t = [.access (.delete key) true]) ∨
      ∃ f, r = .error f ∧ t = [.access (.delete key) false] ∧ ((Host.refuse (.delete key) w.host).1 = some f ∨
        f = .registry (.notFound key) ∧ w.store.get? key = none) := by
  subst hreg
  unfold Act.Ends delete noted
  simp only [Store.delete, Store.access]
  cases h : (Host.refuse (.delete key) w.host).1 with
  | some f => exact ⟨_, (World.leads_host w _).trans (World.leads_note _ rfl), .inr ⟨f, rfl, rfl, .inl rfl⟩⟩
  | none =>
    by_cases hc : w.store.contains key
    · rw [if_pos hc]
      exact ⟨[.access (.delete key) true], ⟨rfl, rfl, Nat.le_refl _, rfl, rfl⟩, .inl ⟨rfl, rfl⟩⟩
    · rw [if_neg hc]
      refine ⟨_, (World.leads_host w _).trans (World.leads_note _ rfl), .inr ⟨_, rfl, rfl, .inr ⟨rfl, ?_⟩⟩⟩
      simpa [Table.contains] using hc

/-- A document is stored with its members in the order of their keys, or nothing happens. -/
theorem update_ends (value : Json) : (reg.update key value).Ends w fun r t _ =>
    (r = .ok () ∧ t = [.access (.put key value.sort) true]) ∨
      ∃ f, r = .error f ∧ t = [.access (.put key value.sort) false] ∧
        (Host.refuse (.put key value.sort) w.host).1 = some f :=
  put_ends hreg key w value.sort

/-- When the removal of a document is said to have succeeded, the document was removed or was not there. -/
theorem deleteIfPresent_ends : (reg.deleteIfPresent key).Ends w fun r t _ =>
    (r = .ok true ∧ t = [.access (.delete key) true]) ∨
      (r = .ok false ∧ t = [.access (.delete key) false] ∧ (Host.Candid σ → w.store.get? key = none)) ∨
      ∃ f, r = .error f ∧ t = [.access (.delete key) false] ∧ (Host.refuse (.delete key) w.host).1 = some f := by
  unfold deleteIfPresent
  refine Act.ends_bind (Act.ends_attempt ((delete_ends hreg key w).mono ?_))
  rintro r t w' - (⟨rfl, rfl⟩ | ⟨f, rfl, rfl, hfailed⟩)
  · exact Act.ends_pure (.inl ⟨rfl, rfl⟩)
  · dsimp only
    split
    · rename_i heq
      cases heq
    · rename_i k heq
      cases heq
      refine Act.ends_pure (.inr (.inl ⟨rfl, rfl, fun candid => ?_⟩))
      rcases hfailed with hrefused | ⟨-, hmissing⟩
      · exact absurd rfl (candid _ _ _ hrefused k)
      · exact hmissing
    · rename_i f' hf' heq
      cases heq
      rcases hfailed with hrefused | ⟨rfl, -⟩
      · exact Act.ends_fail (.inr (.inr ⟨_, rfl, rfl, hrefused⟩))
      · exact absurd rfl (hf' key)

end Registry

/-! ## Orchestrators -/

/-- The first word of the command that stands for a call. -/
def Call.verb : Call → String
  | application _ => "status"
  | leader _ => "status"
  | action .. => "run"
  | scale .. => "scale-application"
  | refresh _ => "refresh"
  | latestRevision .. => "info"
  | upgradeStack _ => "show-unit"

/-- A command with a given first word was started. -/
def Event.Starts (verb : String) (e : Event) : Prop :=
  ∃ c files, e = .command c files ∧ c.args.head? = some verb

theorem Event.Starts.not_changes {verb : String} {e : Event} (h : e.Starts verb) : e.changes = false := by
  obtain ⟨c, files, rfl, -⟩ := h
  rfl

namespace CommandLine

/-- A command of the tool with a given first word was started. -/
def Starts (t : CommandLine) (verb : String) (e : Event) : Prop :=
  ∃ c files, e = .command c files ∧ c.program = t.binary ∧ c.args.head? = some verb

theorem Starts.starts {t : CommandLine} {verb : String} {e : Event} (h : t.Starts verb e) : e.Starts verb := by
  obtain ⟨c, files, rfl, -, hverb⟩ := h
  exact ⟨c, files, rfl, hverb⟩

variable (t : CommandLine) {verb : String} {args : List String}

theorem execute_within (h : args.head? = some verb) :
    Within (t.Starts verb) (t.execute args : Act σ CommandOutput) := by
  unfold execute
  refine (within_run fun files => ⟨_, files, rfl, rfl, h⟩).bind fun reply => ?_
  split
  · exact within_pure _
  · exact within_fail _
  · exact within_fail _

theorem printed_within (h : args.head? = some verb) : Within (t.Starts verb) (t.printed args : Act σ String) := by
  unfold printed
  refine (t.execute_within h).bind fun output => ?_
  split
  · exact within_pure _
  · exact within_fail _

theorem application?_within (name : String) :
    Within (t.Starts "status") (t.application? name : Act σ (Option Application)) := by
  unfold application?
  exact (t.printed_within rfl).bind fun _ => (within_ofExcept _).bind fun _ => within_pure _

/-- A tool takes a call by commands that begin with its verb. -/
theorem answer_within (c : Call) : Within (t.Starts c.verb) (t.answer c : Act σ c.Answer) := by
  cases c with
  | application name => exact t.application?_within name
  | leader name =>
    refine (t.application?_within name).bind fun found => ?_
    split
    · exact within_fail _
    · split
      · exact within_pure _
      · exact within_fail _
  | action unit name params => exact (t.execute_within rfl).bind fun _ => within_ofExcept _
  | scale name units => exact (t.printed_within rfl).bind fun _ => within_pure _
  | refresh name => exact (t.printed_within rfl).bind fun _ => within_pure _
  | latestRevision charm channel =>
    exact (t.printed_within rfl).bind fun _ => (within_ofExcept _).bind fun _ => within_pure _
  | upgradeStack unit =>
    exact (t.printed_within rfl).bind fun _ => (within_ofExcept _).bind fun _ => within_pure _

theorem answer_does (c : Call) : (t.answer c : Act σ c.Answer).Does (Event.Starts c.verb) := by
  refine ((t.answer_within c).mono fun e he => he.starts).does fun a ha => ?_
  obtain ⟨cmd, files, hevent, -⟩ := ha
  cases hevent

end CommandLine

namespace Orchestrator

variable (o : Orchestrator) (c : Call)

/-- A call is noted, and then only commands with its verb are started. -/
theorem ask_ends (w : World σ) : (o.ask c).Ends w fun _ t _ =>
    ∃ t', t = .call c :: t' ∧ ∀ e ∈ t', e.Starts c.verb := by
  unfold ask
  refine Act.ends_bind ⟨[.call c], World.leads_note w rfl, ?_⟩
  cases o with
  | direct => exact (Act.does_call c _).mono fun _ t' _ _ ht => ⟨t', rfl, ht⟩
  | tool t => exact (t.answer_does c _).mono fun _ t' _ _ ht => ⟨t', rfl, ht⟩

/-- What a call amounts to: the call itself, and then commands of a tool that begin with its verb. -/
def Takes (o : Orchestrator) (c : Call) (e : Event) : Prop := e = .call c ∨ ∃ t, o = .tool t ∧ t.Starts c.verb e

omit [Host σ] in
variable {o c} in
theorem Takes.at {e : Event} (h : o.Takes c e) (key : String) : e.At key := by
  rcases h with rfl | ⟨t, -, cmd, files, rfl, -⟩
  · trivial
  · trivial

theorem ask_within : Within (o.Takes c) (o.ask c : Act σ c.Answer) := by
  unfold ask
  refine (within_note (.inl rfl)).bind fun _ => ?_
  cases o with
  | direct => exact within_call c
  | tool t => exact (t.answer_within c).mono fun e he => .inr ⟨t, rfl, he⟩

omit [Host σ] in
theorem does_of_within {α : Type} {x : Act σ α} {P : Event → Prop} (hc : P (.call c)) (ht : ∀ e, e.Starts c.verb → P e)
    (h : Within (o.Takes c) x) : x.Does P := by
  have hno_access (a : Access) (ha : o.Takes c (.access a true)) : a.looks = true := by
    rcases ha with hcall | ⟨t, -, cmd, files, hevent, -⟩
    · cases hcall
    · cases hevent
  intro w
  refine (h.does hno_access w).mono ?_
  rintro - t - - htakes e he
  rcases htakes e he with rfl | ⟨tool, -, hstarts⟩
  · exact hc
  · exact ht e hstarts.starts

/-- A question to an orchestrator: a call that changes nothing, and what it amounts to. -/
def Asks (o : Orchestrator) (e : Event) : Prop := ∃ c : Call, c.changes = false ∧ o.Takes c e

omit [Host σ] in
variable {o} in
theorem Asks.not_changes {e : Event} (h : o.Asks e) : e.changes = false := by
  obtain ⟨c, hc, rfl | ⟨t, -, hstarts⟩⟩ := h
  · exact hc
  · exact hstarts.starts.not_changes

omit [Host σ] in
variable {o} in
theorem Asks.at {e : Event} (h : o.Asks e) (key : String) : e.At key := by
  obtain ⟨c, -, htakes⟩ := h
  exact htakes.at key

theorem asks_within (h : c.changes = false) : Within o.Asks (o.ask c : Act σ c.Answer) :=
  (o.ask_within c).mono fun _ he => ⟨c, h, he⟩

/-- Of a call only the call itself can change anything. -/
theorem ask_changes (w : World σ) : (o.ask c).Ends w fun _ t _ =>
    Event.changesOf t = if c.changes then [.call c] else [] := by
  refine (o.ask_ends c w).mono ?_
  rintro - - - - ⟨t', rfl, h⟩
  have ht' : Event.changesOf t' = [] := Event.changesOf_eq_nil fun e he => (h e he).not_changes
  have hc : Event.changes (.call c) = c.changes := rfl
  unfold Event.changesOf at ht' ⊢
  rw [List.filter_cons, ht', hc]

end Orchestrator

/-! ## Waiting -/

namespace Wait

variable {P : Event → Prop} (p : Wait) (o : Orchestrator) (application : String)

theorem settled_within (accepted : List String) :
    Within (o.Takes (.application application)) (p.settled o application accepted : Act σ Application) :=
  until_within ((o.ask_within (.application application)).bind fun _ => within_pure _) p _ _

theorem upgraded_within (unit : String) :
    Within (o.Takes (.application application)) (p.upgraded o application unit : Act σ Unit) :=
  until_within ((o.ask_within (.application application)).bind fun _ => within_pure _) p _ _

theorem settled_does (hc : P (.call (.application application))) (ht : ∀ e, e.Starts "status" → P e)
    (accepted : List String) : (p.settled o application accepted : Act σ Application).Does P :=
  o.does_of_within _ hc ht (p.settled_within o application accepted)

theorem upgraded_does (hc : P (.call (.application application))) (ht : ∀ e, e.Starts "status" → P e)
    (unit : String) : (p.upgraded o application unit : Act σ Unit).Does P :=
  o.does_of_within _ hc ht (p.upgraded_within o application unit)

end Wait

end Rollout
