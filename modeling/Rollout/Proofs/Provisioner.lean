import Rollout.Proofs.Access
import Rollout.Proofs.Host
import Rollout.Proofs.Risky
import Rollout.Provisioner.Basic

/-!
# Rollout.Proofs.Provisioner — what applying a plan does

The variables are written to their file before the program is started, and that again for each attempt while the state
is locked.

* `Retry.run_ends`: what holds of every attempt, and is carried on from one to the next, holds of them all.
* `Provisioner.Applies`: what applying variables does, in one attempt or in several.
* `Provisioner.apply_ends`, `Provisioner.retried_apply_ends`: it does so.
* `writeIfChanged_eq`: a file that is written if it changed is read first.
* `Provisioner.init_within`, `apply_within`, `destroy_within`, `hasResources_within`: the operations handle files and
  run the program, and to look at the state of a plan is no more than to pull it.
-/

namespace Rollout

variable {σ : Type}

/-! ## Attempts -/

namespace Retry

variable {α : Type} {attempt : Act σ α} {Q : World σ → Except Fault α → List Event → World σ → Prop}

theorem loop_ends {interval deadline started : Span} (hattempt : ∀ w, attempt.Ends w (Q w))
    (hagain : ∀ w e t w' d r t' w'', w.Leads t w' → Q w (.error e) t w' → Q (w'.later d) r t' w'' →
      Q w r (t ++ t') w'')
    (n : Nat) (w : World σ) : (loop interval deadline started attempt n).Ends w fun r t w' =>
      Risky.Amounts (Q w · t w') r := by
  induction n generalizing w with
  | zero =>
    refine Risky.ends_lift ((hattempt w).mono fun r t w' _ hq => ?_)
    cases r <;> exact hq
  | succ n ih =>
    obtain ⟨t, hl, hq⟩ := hattempt w
    unfold Act.Ends loop
    generalize attempt w = y at hl hq
    obtain ⟨_ | _, w'⟩ := y
    · rename_i e
      dsimp only
      split
      · split
        · exact ⟨t, hl, e, hq⟩
        · split
          · exact ⟨t, hl, hq⟩
          · obtain ⟨t', hl', hq'⟩ := ih (w'.later interval)
            have hlater := (hl.trans (World.leads_later w' interval)).trans hl'
            rw [List.append_nil] at hlater
            exact ⟨t ++ t', hlater, hq'.mono fun r hr => hagain w e t w' interval r t' _ hl hq hr⟩
      · exact ⟨t, hl, hq⟩
    · exact ⟨t, hl, hq⟩

/-- What holds of every attempt and is carried on from a failed one to the next holds of all attempts together. -/
theorem run_ends (p : Config.Retry) (hattempt : ∀ w, attempt.Ends w (Q w))
    (hagain : ∀ w e t w' d r t' w'', w.Leads t w' → Q w (.error e) t w' → Q (w'.later d) r t' w'' →
      Q w r (t ++ t') w'')
    (w : World σ) : (run p attempt).Ends w fun r t w' => Risky.Amounts (Q w · t w') r := by
  unfold Act.Ends run Policy.run
  -- The number of attempts can be too large to be counted down.
  generalize (Policy.ofConfig p).mostAttempts = n
  exact loop_ends hattempt hagain n w

end Retry

/-! ## Applying variables -/

namespace Provisioner

variable [Host σ] (p : Provisioner)

/-- What applying variables does: every program that is started finds exactly these variables in their file, and where
it succeeds the program has ended well at last. -/
structure Applies (vars : Variables) (w : World σ) (r : Except Fault Unit) (t : List Event) (w' : World σ) : Prop where
  host : w'.host = Host.replay w.here w.host t
  quiet : ∀ e ∈ t, e.changes = false
  started : ∀ c files, .command c files ∈ t →
    files.read w.here (p.path.join variablesFile) = .ok (Json.ofTable vars).compact
  succeeded : r = .ok () → Host.Succeeds w.here w.host "apply" t

/-- A run of the program succeeds when the program ends well. -/
theorem outcome_eq_ok {operation : String} {reply : Except CommandFault CommandOutput} {out : CommandOutput}
    (h : p.outcome operation reply = .ok out) : reply = .ok out ∧ out.success = true := by
  unfold outcome at h
  cases reply with
  | error e => cases e <;> cases h
  | ok output =>
    dsimp only at h
    by_cases hsuccess : output.success = true
    · rw [if_pos hsuccess] at h
      cases h
      exact ⟨rfl, hsuccess⟩
    · rw [if_neg hsuccess] at h
      split at h <;> cases h

theorem invoke_ends (operation : String) {args : List String} {verb : String} (hargs : args.head? = some verb)
    (timeout : Span) (w : World σ) : (p.invoke operation args timeout).Ends w fun r t w' =>
      w'.host = Host.replay w.here w.host t ∧ (∃ c, t = [.command c w.files]) ∧
        ∀ out, r = .ok out → Host.Succeeds w.here w.host verb t := by
  unfold invoke
  refine Act.ends_bind (Act.ends_asks (Act.ends_bind ((Act.run_ends _ w).mono ?_)))
  rintro r t w' - ⟨rfl, rfl, hhost⟩
  refine Act.ends_ofExcept ⟨hhost, ⟨_, rfl⟩, ?_⟩
  intro out hout
  obtain ⟨hreply, hsuccess⟩ := p.outcome_eq_ok hout
  exact ⟨[], _, w.files, out, rfl, hargs, hreply, hsuccess⟩

/-- Variables that are said to be written stand in their file. -/
theorem writeVariables_ends (vars : Variables) (w : World σ) : (p.writeVariables vars).Ends w fun r t w' =>
    w'.host = Host.replay w.here w.host t ∧ (∀ e ∈ t, ∃ a, e = .file a) ∧
      (r = .ok () → w'.files.read w.here (p.path.join variablesFile) = .ok (Json.ofTable vars).compact) := by
  unfold writeVariables orIo
  refine Act.ends_bind (((Disk.write_tracks _ _ w).and (Disk.write_ends _ _ w)).mono ?_)
  rintro r t w' - ⟨hhost, hfiles, hwritten⟩
  cases r with
  | error f =>
    refine ⟨hhost, hfiles, ?_⟩
    intro h
    cases h
  | ok written =>
    cases written with
    | error e =>
      refine Act.ends_fail ⟨by simpa using hhost, by simpa using hfiles, ?_⟩
      intro h
      cases h
    | ok _ => exact Act.ends_pure ⟨by simpa using hhost, by simpa using hfiles, fun _ => hwritten rfl⟩

/-- Things may be done before that change nothing and start the program, if at all, with the same variables. -/
theorem Applies.after {vars : Variables} {w w₁ w₂ : World σ} {r : Except Fault Unit} {t t' : List Event}
    (hhere : w₁.here = w.here) (hhost : w₁.host = Host.replay w.here w.host t) (hquiet : ∀ e ∈ t, e.changes = false)
    (hstarted : ∀ c files, .command c files ∈ t →
      files.read w.here (p.path.join variablesFile) = .ok (Json.ofTable vars).compact)
    (h : p.Applies vars w₁ r t' w₂) : p.Applies vars w r (t ++ t') w₂ where
  host := by rw [h.host, hhere, hhost, Host.replay_append]
  quiet := by
    intro e he
    rcases List.mem_append.mp he with he | he
    · exact hquiet e he
    · exact h.quiet e he
  started := by
    intro c files he
    rcases List.mem_append.mp he with he | he
    · exact hstarted c files he
    · rw [← hhere]
      exact h.started c files he
  succeeded := by
    intro hr
    have hsucceeds := h.succeeded hr
    rw [hhere, hhost] at hsucceeds
    exact hsucceeds.after

theorem Applies.published {vars : Variables} {w w' : World σ} {r : Except Fault Unit} {t : List Event} {text : String}
    (h : p.Applies vars (w.note (.status text)) r t w') : p.Applies vars w r ([.status text] ++ t) w' := by
  have hhere : (w.note (.status text)).here = w.here := rfl
  have hhost : (w.note (.status text)).host = Host.replay w.here w.host [.status text] := rfl
  exact h.after p hhere hhost (by simp [Event.changes]) (by simp)

theorem apply_ends (vars : Variables) (extra : List String) (w : World σ) :
    (p.apply vars extra).Ends w (p.Applies vars w) := by
  unfold apply
  refine Act.ends_bind ((p.writeVariables_ends vars w).mono ?_)
  rintro r t w₁ hl ⟨hhost, hfiles, hwritten⟩
  have hquiet : ∀ e ∈ t, e.changes = false := by
    intro e he
    obtain ⟨a, rfl⟩ := hfiles e he
    rfl
  have hstarted : ∀ c files, .command c files ∈ t →
      files.read w.here (p.path.join variablesFile) = .ok (Json.ofTable vars).compact := by
    intro c files he
    obtain ⟨a, ha⟩ := hfiles _ he
    cases ha
  cases r with
  | error f => exact ⟨hhost, hquiet, hstarted, fun h => nomatch h⟩
  | ok _ =>
    refine Act.ends_bind ((p.invoke_ends "apply" rfl p.applyTimeout w₁).mono ?_)
    rintro r t' w₂ - ⟨hhost', ⟨c, rfl⟩, hsucceeds⟩
    -- The one command finds the file that was just written.
    have hcommand : ∀ r', (r' = .ok () → ∃ out, r = .ok out) →
        p.Applies vars w r' (t ++ [.command c w₁.files]) w₂ := by
      intro r' hr
      refine Applies.after p hl.here hhost hquiet hstarted ⟨hhost', ?_, ?_, ?_⟩
      · intro e he
        rw [List.mem_singleton.mp he]
        rfl
      · intro c' files he
        cases List.mem_singleton.mp he
        rw [hl.here]
        exact hwritten rfl
      · intro hr'
        obtain ⟨out, hout⟩ := hr hr'
        exact hsucceeds out hout
    cases r with
    | error f => exact hcommand _ fun h => nomatch h
    | ok out =>
      refine Act.ends_pure ?_
      rw [List.append_nil]
      exact hcommand _ fun _ => ⟨out, rfl⟩

theorem retried_apply_ends (retry : Config.Retry) (vars : Variables) (extra : List String) (w : World σ) :
    (Retry.run retry (p.apply vars extra)).Ends w fun r t w' => Risky.Amounts (p.Applies vars w · t w') r := by
  refine Retry.run_ends retry (p.apply_ends vars extra) (fun w e t w' d r t' w'' hl h h' => ?_) w
  have hhere : (w'.later d).here = w.here := hl.here
  exact Applies.after p hhere h.host h.quiet h.started h'

end Provisioner

/-! ## The operations -/

section Kinds

variable {α : Type} [Host σ] {E : Event → Prop}

omit [Host σ] in
theorem orIo_within {x : Act σ (Except OsFault α)} (h : Within E x) : Within E (orIo x) := by
  unfold orIo
  refine h.bind fun r => ?_
  split
  · exact within_pure _
  · exact within_fail _

/-- The text of a file, if there is one. -/
def fileText? (path : Path) : Act σ (Option String) := do
  if ← Disk.contains path then some <$> orIo (Disk.read path) else pure none

/-- Makes a file hold a text where another one may stand, and tells whether it was written for that. -/
def writeOver (path : Path) (text : String) (current : Option String) : Act σ Bool :=
  if current = some text then pure false
  else do
    orIo (Disk.write path text)
    pure true

theorem writeIfChanged_eq (path : Path) (text : String) :
    (writeIfChanged path text : Act σ Bool) = fileText? path >>= writeOver path text := by
  unfold writeIfChanged fileText?
  funext w
  simp only [Act.bind_apply, Disk.contains, Act.asks]
  split <;> rfl

theorem fileText?_within {path : Path} (h : E (.file (.read path))) : Within E (fileText? path : Act σ _) := by
  unfold fileText?
  refine (Disk.contains_within path).bind fun present => ?_
  split
  · exact (orIo_within (Disk.read_within h)).bind fun _ => within_pure _
  · exact within_pure _

theorem writeOver_within (h : ∀ a, E (.file a)) (path : Path) (text : String) (current : Option String) :
    Within E (writeOver path text current : Act σ Bool) := by
  unfold writeOver
  split
  · exact within_pure _
  · exact (orIo_within (Disk.write_within h path text)).bind fun _ => within_pure _

theorem writeIfChanged_within (h : ∀ a, E (.file a)) (path : Path) (text : String) :
    Within E (writeIfChanged path text : Act σ Bool) := by
  rw [writeIfChanged_eq]
  exact (fileText?_within (h _)).bind (writeOver_within h path text)

namespace Provisioner

variable (p : Provisioner)

/-- The program was run with given arguments. -/
def Runs (p : Provisioner) (args : List String) (e : Event) : Prop :=
  ∃ c files, e = .command c files ∧ c.program = p.binary ∧ c.args = args

theorem Runs.works {args : List String} {e : Event} (h : p.Runs args e) : e.Works := by
  obtain ⟨c, files, rfl, -⟩ := h
  trivial

theorem invoke_within (operation : String) (args : List String) (timeout : Span) :
    Within (p.Runs args) (p.invoke operation args timeout : Act σ CommandOutput) := by
  unfold invoke
  refine (within_asks fun _ _ _ _ => rfl).bind fun env => ?_
  exact (within_run fun files => ⟨_, files, rfl, rfl, rfl⟩).bind fun reply => within_ofExcept _

theorem init_within : Within Event.Works (p.init : Act σ Unit) := by
  have backend_within : Within Event.Works (p.writeBackend : Act σ Bool) := by
    unfold writeBackend
    split
    · exact writeIfChanged_within (fun _ => trivial) _ _
    · exact within_pure _
  unfold init
  refine backend_within.bind fun reconfigure => ?_
  exact ((p.invoke_within _ _ _).mono fun _ => Runs.works p).bind fun _ => within_pure _

theorem apply_within (vars : Variables) (extra : List String) : Within Event.Works (p.apply vars extra : Act σ Unit) := by
  unfold apply
  refine (orIo_within (Disk.write_within (fun _ => trivial) _ _)).bind fun _ => ?_
  exact ((p.invoke_within _ _ _).mono fun _ => Runs.works p).bind fun _ => within_pure _

theorem destroy_within : Within Event.Works (p.destroy : Act σ Unit) := by
  unfold destroy
  exact ((p.invoke_within _ _ _).mono fun _ => Runs.works p).bind fun _ => within_pure _

theorem hasResources_within : Within (p.Runs ["state", "pull"]) (p.hasResources : Act σ Bool) := by
  unfold hasResources pullState
  refine ((p.invoke_within _ _ _).bind fun output => ?_).bind fun _ => within_pure _
  split
  · exact within_pure _
  · split
    · exact within_pure _
    · exact within_fail _

end Provisioner

end Kinds

end Rollout
