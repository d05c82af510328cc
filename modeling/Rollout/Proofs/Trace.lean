import Mathlib.Data.List.Basic
import Rollout.World.Basic

/-!
# Rollout.Proofs.Trace — what an action leaves behind

The log of a world only grows, and so does its clock.  The things done between two worlds are their trace, and the
store of the later world is the store of the earlier one after the accesses of the trace that were granted.

* `World.Leads w t w'`: the trace `t` leads from `w` to `w'`.
* `Act.Ends x w Q`: `x` started in `w` ends with a result, a trace and a world that satisfy `Q`.  One rule for each
  way to put actions together.
* `Act.Does P x`: whatever `x` does is of the kind `P`; the rules for it need no postcondition.
* `Act.bind_eq_ok`, `bind_eq_error`, `attempt_bind_eq`: from the result of a sequence those of its parts.
-/

namespace Rollout

/-! ## Traces -/

/-- The store after one thing was done. -/
def Event.applyTo (store : Table Json) : Event → Table Json
  | .access (.put key value) true => store.insert key value
  | .access (.delete key) true => store.erase key
  | _ => store

/-- The store after a row of things was done. -/
def Store.replay (store : Table Json) (t : List Event) : Table Json := t.foldl Event.applyTo store

@[simp] theorem Store.replay_cons (store : Table Json) (e : Event) (t : List Event) :
    Store.replay store (e :: t) = Store.replay (e.applyTo store) t := rfl

theorem Store.replay_append (store : Table Json) (t t' : List Event) :
    Store.replay store (t ++ t') = Store.replay (Store.replay store t) t' := List.foldl_append

/-- The things `t` were done on the way from `w` to `w'`, the first one first. -/
structure World.Leads {σ : Type} (w : World σ) (t : List Event) (w' : World σ) : Prop where
  log : w'.log = t.reverse ++ w.log
  store : w'.store = Store.replay w.store t
  now : w.now ≤ w'.now
  started : w'.started = w.started
  here : w'.here = w.here

namespace World

variable {σ : Type} {w w' w'' : World σ} {t t' : List Event}

theorem Leads.refl (w : World σ) : w.Leads [] w := ⟨rfl, rfl, Nat.le_refl _, rfl, rfl⟩

theorem Leads.trans (h : w.Leads t w') (h' : w'.Leads t' w'') : w.Leads (t ++ t') w'' where
  log := by rw [h'.log, h.log, List.reverse_append, List.append_assoc]
  store := by rw [h'.store, h.store, Store.replay_append]
  now := Nat.le_trans h.now h'.now
  started := h'.started.trans h.started
  here := h'.here.trans h.here

/-- The trace between two worlds is unique. -/
theorem Leads.unique (h : w.Leads t w') (h' : w.Leads t' w') : t = t' := by
  have hlog : t.reverse ++ w.log = t'.reverse ++ w.log := h.log.symm.trans h'.log
  exact List.reverse_injective (List.append_cancel_right hlog)

/-- What was done since an earlier world, as the log shows it. -/
def since (w' w : World σ) : List Event := (w'.log.take (w'.log.length - w.log.length)).reverse

theorem since_eq (hlog : w'.log = t.reverse ++ w.log) : w'.since w = t := by
  rw [since, hlog, List.length_append, Nat.add_sub_cancel, List.take_left, List.reverse_reverse]

theorem Leads.since_eq (h : w.Leads t w') : w'.since w = t := World.since_eq h.log

theorem leads_host (w : World σ) (host : σ) : w.Leads [] { w with host } := ⟨rfl, rfl, Nat.le_refl _, rfl, rfl⟩

theorem leads_later (w : World σ) (d : Span) : w.Leads [] (w.later d) := ⟨rfl, rfl, Nat.le_add_right _ _, rfl, rfl⟩

theorem leads_note (w : World σ) {e : Event} (he : e.applyTo w.store = w.store) : w.Leads [e] (w.note e) :=
  ⟨rfl, he.symm, Nat.le_refl _, rfl, rfl⟩

/-- The clock shows `i` at some time between two worlds. -/
def Shows (w w' : World σ) (i : Instant) : Prop := ∃ d, w.now ≤ d ∧ d ≤ w'.now ∧ i = w.started.after d

theorem shows_date (w : World σ) : w.Shows w w.date := ⟨w.now, Nat.le_refl _, Nat.le_refl _, rfl⟩

theorem Shows.later {i : Instant} (h : w.Shows w' i) (h' : w'.Leads t w'') : w.Shows w'' i := by
  obtain ⟨d, h1, h2, rfl⟩ := h
  exact ⟨d, h1, Nat.le_trans h2 h'.now, rfl⟩

theorem Shows.earlier {i : Instant} (h : w'.Shows w'' i) (h' : w.Leads t w') : w.Shows w'' i := by
  obtain ⟨d, h1, h2, rfl⟩ := h
  exact ⟨d, Nat.le_trans h'.now h1, h2, by rw [h'.started]⟩

end World

namespace Act

variable {σ α β : Type}

@[simp] theorem bind_apply (x : Act σ α) (f : α → Act σ β) (w : World σ) :
    (x >>= f) w = match x w with
      | (.ok a, w') => f a w'
      | (.error e, w') => (.error e, w') := rfl

theorem id_map (x : Act σ α) : id <$> x = x := by
  funext w
  show (x >>= fun a => Pure.pure a) w = x w
  rw [bind_apply]
  rcases x w with ⟨_ | a, w'⟩ <;> rfl

theorem bind_assoc {γ : Type} (x : Act σ α) (f : α → Act σ β) (g : β → Act σ γ) :
    (x >>= f) >>= g = x >>= fun a => f a >>= g := by
  funext w
  simp only [bind_apply]
  rcases x w with ⟨_ | a, w'⟩ <;> rfl

instance : LawfulMonad (Act σ) := .mk' _ id_map (fun _ _ => rfl) bind_assoc

/-- After an action that succeeds comes the next one. -/
theorem bind_of_ok {x : Act σ α} {a : α} {w w' : World σ} (h : x w = (.ok a, w')) (f : α → Act σ β) :
    (x >>= f) w = f a w' := by
  rw [bind_apply, h]

/-- After an action that fails nothing comes. -/
theorem bind_of_error {x : Act σ α} {e : Fault} {w w' : World σ} (h : x w = (.error e, w')) (f : α → Act σ β) :
    (x >>= f) w = (.error e, w') := by
  rw [bind_apply, h]

/-- An action that succeeds has succeeded in its first part, and then in the rest. -/
theorem bind_eq_ok {x : Act σ α} {f : α → Act σ β} {b : β} {w w' : World σ} (h : (x >>= f) w = (.ok b, w')) :
    ∃ a w₁, x w = (.ok a, w₁) ∧ f a w₁ = (.ok b, w') := by
  rw [bind_apply] at h
  rcases hx : x w with ⟨_ | a, w₁⟩
  · rw [hx] at h
    cases h
  · rw [hx] at h
    exact ⟨a, w₁, rfl, h⟩

/-- An action that fails has failed in its first part, or in the rest. -/
theorem bind_eq_error {x : Act σ α} {f : α → Act σ β} {e : Fault} {w w' : World σ} (h : (x >>= f) w = (.error e, w')) :
    x w = (.error e, w') ∨ ∃ a w₁, x w = (.ok a, w₁) ∧ f a w₁ = (.error e, w') := by
  rw [bind_apply] at h
  rcases hx : x w with ⟨e' | a, w₁⟩
  · rw [hx] at h
    cases h
    exact .inl rfl
  · rw [hx] at h
    exact .inr ⟨a, w₁, rfl, h⟩

theorem attempt_eq_iff {x : Act σ α} {r : Except Fault α} {w w' : World σ} :
    x.attempt w = (.ok r, w') ↔ x w = (r, w') := by
  unfold attempt
  rcases x w with ⟨r₁, w₁⟩
  simp only [Prod.mk.injEq, Except.ok.injEq]

/-- What starts with an attempt goes on with its result, whatever that is. -/
theorem attempt_bind_eq {x : Act σ α} {f : Except Fault α → Act σ β} {w : World σ} {q : Except Fault β × World σ}
    (h : (x.attempt >>= f) w = q) : ∃ r w₁, x w = (r, w₁) ∧ f r w₁ = q := ⟨(x w).1, (x w).2, rfl, h⟩

theorem publish_bind (text : String) (f : Unit → Act σ α) (w : World σ) :
    (publish text >>= f) w = f () (w.note (.status text)) := rfl

/-- What only looks at a result leaves nothing behind. -/
theorem world_bind {x : Act σ α} {f : α → Act σ β} (hf : ∀ a w, (f a w).2 = w) (w : World σ) :
    ((x >>= f) w).2 = (x w).2 := by
  rw [bind_apply]
  split
  · rename_i hx
    rw [hf, hx]
  · rename_i hx
    rw [hx]

theorem bind_ofExcept_ok (a : α) (f : α → Act σ β) (w : World σ) : (ofExcept (.ok a) >>= f) w = f a w := rfl

/-! ## Postconditions -/

/-- `x` started in `w` ends with a result, a trace and a world that satisfy `Q`. -/
def Ends (x : Act σ α) (w : World σ) (Q : Except Fault α → List Event → World σ → Prop) : Prop :=
  ∃ t, w.Leads t (x w).2 ∧ Q (x w).1 t (x w).2

section Rules

variable {x : Act σ α} {w : World σ} {Q Q' : Except Fault α → List Event → World σ → Prop}

theorem Ends.mono (h : x.Ends w Q) (hQ : ∀ r t w', w.Leads t w' → Q r t w' → Q' r t w') : x.Ends w Q' := by
  obtain ⟨t, hl, hq⟩ := h
  exact ⟨t, hl, hQ _ _ _ hl hq⟩

/-- The end that a postcondition speaks of is the end of the action. -/
theorem Ends.result (h : x.Ends w Q) : x.Ends w fun r t w' => x w = (r, w') ∧ Q r t w' := by
  obtain ⟨t, hl, hq⟩ := h
  exact ⟨t, hl, rfl, hq⟩

theorem ends_pure {a : α} (h : Q (.ok a) [] w) : (Pure.pure a : Act σ α).Ends w Q := ⟨[], World.Leads.refl w, h⟩

theorem ends_fail {e : Fault} (h : Q (.error e) [] w) : (fail e : Act σ α).Ends w Q := ⟨[], World.Leads.refl w, h⟩

theorem ends_ofExcept {r : Except Fault α} (h : Q r [] w) : (ofExcept r : Act σ α).Ends w Q :=
  ⟨[], World.Leads.refl w, h⟩

theorem ends_asks {f : World σ → α} (h : Q (.ok (f w)) [] w) : (asks f).Ends w Q := ⟨[], World.Leads.refl w, h⟩

/-- One action after another: the second starts where the first ended, and the traces are put together. -/
theorem ends_bind {f : α → Act σ β} {R : Except Fault β → List Event → World σ → Prop}
    (h : x.Ends w fun r t w' => match r with
      | .ok a => (f a).Ends w' fun r' t' w'' => R r' (t ++ t') w''
      | .error e => R (.error e) t w') :
    (x >>= f).Ends w R := by
  obtain ⟨t, hl, hq⟩ := h
  unfold Ends
  rw [bind_apply]
  generalize x w = y at hl hq
  obtain ⟨r, w'⟩ := y
  cases r with
  | error e => exact ⟨t, hl, hq⟩
  | ok a =>
    obtain ⟨t', hl', hq'⟩ := hq
    exact ⟨t ++ t', hl.trans hl', hq'⟩

theorem ends_attempt {R : Except Fault (Except Fault α) → List Event → World σ → Prop}
    (h : x.Ends w fun r t w' => R (.ok r) t w') : x.attempt.Ends w R := h

theorem ends_mapFault {f : Fault → Fault} (h : x.Ends w fun r t w' => Q (r.mapError f) t w') :
    (mapFault f x).Ends w Q := by
  obtain ⟨t, hl, hq⟩ := h
  unfold Ends mapFault
  generalize x w = y at hl hq
  obtain ⟨r, w'⟩ := y
  cases r with
  | error e => exact ⟨t, hl, hq⟩
  | ok a => exact ⟨t, hl, hq⟩

theorem ends_publish {text : String} {Q : Except Fault Unit → List Event → World σ → Prop}
    (h : Q (.ok ()) [.status text] (w.note (.status text))) : (publish text).Ends w Q :=
  ⟨[.status text], World.leads_note w rfl, h⟩

end Rules

/-- A program that is run finds the files of the world, and nothing else is noted. -/
theorem leads_run [Host σ] (c : Command) (w : World σ) : w.Leads [.command c w.files] (run c w).2 := by
  have hhost := World.leads_host w (Host.run w.here w.files c w.host).2
  have hnote := World.leads_note { w with host := (Host.run w.here w.files c w.host).2 } (e := .command c w.files) rfl
  exact (hhost.trans hnote).trans (World.leads_later _ (Host.run w.here w.files c w.host).1.1)

/-! ## Kinds of things done -/

/-- Whatever `x` does is of the kind `P`. -/
def Does (P : Event → Prop) (x : Act σ α) : Prop := ∀ w, x.Ends w fun _ t _ => ∀ e ∈ t, P e

section Kinds

variable {P : Event → Prop} {x : Act σ α}

theorem does_pure (a : α) : (Pure.pure a : Act σ α).Does P := fun _ => ends_pure (by simp)

theorem Does.bind {f : α → Act σ β} (hx : x.Does P) (hf : ∀ a, (f a).Does P) : (x >>= f).Does P := by
  intro w
  refine ends_bind ((hx w).mono fun r t w' _ ht => ?_)
  cases r with
  | error e => exact ht
  | ok a =>
    refine (hf a w').mono fun _ t' _ _ ht' e he => ?_
    rcases List.mem_append.mp he with h | h
    · exact ht e h
    · exact ht' e h

/-- The answer to a call comes from the host alone. -/
theorem does_call [Host σ] (c : Call) : (call c : Act σ c.Answer).Does P := by
  intro w
  refine ⟨[], ?_, by simp⟩
  exact (World.leads_host w (Host.answer c w.host).2).trans (World.leads_later _ (Host.answer c w.host).1.1)

end Kinds

end Act

end Rollout
