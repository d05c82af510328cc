import Rollout.Proofs.Host

/-!
# Rollout.Proofs.Precedence — what was done before what

The things that an action does stand in a row, and what may be done at a place of it can depend on all that was done
before.

* `Act.Heeds x w G`: whatever `x` does, started in `w`, satisfies `G` together with what `x` has done before.  One rule
  for each way to put actions together.
* `Orchestrator.heeds_ask`: the rule for a call, which is noted before the commands that it amounts to.
-/

namespace Rollout

namespace Act

variable {σ α β : Type}

/-- Whatever `x` does that is started in `w` satisfies `G` together with what it has done before. -/
def Heeds (x : Act σ α) (w : World σ) (G : List Event → Event → Prop) : Prop :=
  x.Ends w fun _ t _ => ∀ t₁ e t₂, t = t₁ ++ e :: t₂ → G t₁ e

variable {x : Act σ α} {w : World σ} {G G' : List Event → Event → Prop} {P : Event → Prop}

theorem Heeds.mono (h : x.Heeds w G) (hG : ∀ t e, G t e → G' t e) : x.Heeds w G' :=
  Ends.mono h fun _ _ _ _ ht t₁ e t₂ heq => hG t₁ e (ht t₁ e t₂ heq)

theorem Heeds.and (h : x.Heeds w G) (h' : x.Heeds w G') : x.Heeds w fun t e => G t e ∧ G' t e :=
  (Ends.and h h').mono fun _ _ _ _ ht t₁ e t₂ heq => ⟨ht.1 t₁ e t₂ heq, ht.2 t₁ e t₂ heq⟩

/-- What holds of everything done holds of it whatever was done before. -/
theorem heeds_of_mem {Q : Except Fault α → List Event → World σ → Prop} (h : x.Ends w Q)
    (hG : ∀ r t w', Q r t w' → ∀ t₁, ∀ e ∈ t, G t₁ e) : x.Heeds w G := by
  refine h.mono fun r t w' _ hQ t₁ e t₂ heq => hG r t w' hQ t₁ e ?_
  rw [heq]
  exact List.mem_append_right _ List.mem_cons_self

theorem Does.heeds (h : x.Does P) (hG : ∀ t e, P e → G t e) : x.Heeds w G :=
  heeds_of_mem (h w) fun _ _ _ ht t₁ e he => hG t₁ e (ht e he)

theorem heeds_pure (a : α) : (Pure.pure a : Act σ α).Heeds w G := ends_pure (by simp)

theorem heeds_fail (f : Fault) : (fail f : Act σ α).Heeds w G := ends_fail (by simp)

theorem heeds_ofExcept (r : Except Fault α) : (ofExcept r : Act σ α).Heeds w G := ends_ofExcept (by simp)

theorem Heeds.attempt (h : x.Heeds w G) : x.attempt.Heeds w G := ends_attempt h

theorem heeds_publish {text : String} (h : G [] (.status text)) : (publish text).Heeds (σ := σ) w G := by
  refine ends_publish fun t₁ e t₂ heq => ?_
  rcases t₁ with _ | ⟨e', t₁⟩
  · obtain ⟨rfl, -⟩ := List.cons.inj heq
    exact h
  · simp at heq

/-- What the second of two actions does comes after all that the first has done. -/
theorem Heeds.bind {f : α → Act σ β} (hx : x.Heeds w G)
    (hf : ∀ a w₁ t, x w = (.ok a, w₁) → w.Leads t w₁ → (f a).Heeds w₁ fun t' e => G (t ++ t') e) :
    (x >>= f).Heeds w G := by
  refine ends_bind ((Ends.result hx).mono fun r t w₁ hl h => ?_)
  obtain ⟨hrun, ht⟩ := h
  cases r with
  | error f => exact ht
  | ok a =>
    refine Ends.mono (hf a w₁ t hrun hl) fun r t' w' _ ht' t₁ e t₂ heq => ?_
    -- The place is in what the second action does, or in what the first one does.
    rcases List.append_eq_append_iff.mp heq with ⟨before, rfl, hafter⟩ | ⟨rest, rfl, hrest⟩
    · exact ht' before e t₂ hafter
    · cases rest with
      | nil => simpa using ht' [] e t₂ hrest.symm
      | cons e' rest =>
        obtain ⟨rfl, -⟩ := List.cons.inj hrest
        exact ht t₁ e rest rfl

end Act

/-- A call is noted at once, and nothing but commands with its verb follows. -/
theorem Orchestrator.heeds_ask {σ : Type} [Host σ] {G : List Event → Event → Prop} (o : Orchestrator) (c : Call)
    (w : World σ) (hcall : G [] (.call c)) (hstarts : ∀ t e, e.Starts c.verb → G t e) : (o.ask c).Heeds w G := by
  refine (o.ask_ends c w).mono fun r t w' _ h t₁ e t₂ heq => ?_
  obtain ⟨t', rfl, ht'⟩ := h
  cases t₁ with
  | nil =>
    obtain ⟨rfl, -⟩ := List.cons.inj heq
    exact hcall
  | cons e' t₁ =>
    obtain ⟨-, rfl⟩ := List.cons.inj heq
    exact hstarts _ e (ht' e (List.mem_append_right _ List.mem_cons_self))

end Rollout
