import Rollout.Proofs.Access
import Rollout.Proofs.Files

/-!
# Rollout.Proofs.Host — the host through a trace

A trace tells what the host was asked, one thing after another, so it tells what has become of the host, and with that
how a program ended that was started after it.

* `Host.after`, `Host.replay`: the host after what was asked of it.
* `Act.Tracks`: an action leaves the host that its trace tells of.  One rule for each way to put actions together.
* `Host.Succeeds`: the last thing done was to run a program, and it ended well.
-/

namespace Rollout

variable {σ α β : Type} [Host σ]

/-- The host after one thing was done, where calls are put to it directly and documents are kept in the shared store. -/
def Host.after (here : String) (s : σ) : Event → σ
  | .command c files => (Host.run here files c s).2
  | .call c => (Host.answer c s).2
  | .request r => (Host.exchange r s).2
  | .file a => (Host.disturb a s).2
  | .access a _ => (Host.refuse a s).2
  | .status _ => s
  | .printed _ => s
  | .shown _ => s

/-- The host after a row of things was done. -/
def Host.replay (here : String) (s : σ) (t : List Event) : σ := t.foldl (Host.after here) s

theorem Host.replay_append (here : String) (s : σ) (t t' : List Event) :
    Host.replay here s (t ++ t') = Host.replay here (Host.replay here s t) t' := List.foldl_append

/-- The last thing done was to run a program by a verb, and the program ended well. -/
def Host.Succeeds (here : String) (s : σ) (verb : String) (t : List Event) : Prop :=
  ∃ t₀ c files out, t = t₀ ++ [.command c files] ∧ c.args.head? = some verb ∧
    (Host.run here files c (Host.replay here s t₀)).1.2 = .ok out ∧ out.success = true

theorem Host.Succeeds.after {here verb : String} {s : σ} {t t' : List Event}
    (h : Host.Succeeds here (Host.replay here s t) verb t') : Host.Succeeds here s verb (t ++ t') := by
  obtain ⟨t₀, c, files, out, rfl, hverb, hrun, hout⟩ := h
  exact ⟨t ++ t₀, c, files, out, (List.append_assoc ..).symm, hverb, by rw [Host.replay_append, hrun], hout⟩

namespace Act

variable {x : Act σ α} {w : World σ}

omit [Host σ] in
/-- The trace of an action is one, so postconditions may be put together. -/
theorem Ends.and {Q Q' : Except Fault α → List Event → World σ → Prop} (h : x.Ends w Q) (h' : x.Ends w Q') :
    x.Ends w fun r t w' => Q r t w' ∧ Q' r t w' := by
  obtain ⟨t, hl, hq⟩ := h
  obtain ⟨t', hl', hq'⟩ := h'
  rw [← hl.unique hl'] at hq'
  exact ⟨t, hl, hq, hq'⟩

/-- An action leaves the host that its trace tells of. -/
def Tracks (x : Act σ α) : Prop := ∀ w, x.Ends w fun _ t w' => w'.host = Host.replay w.here w.host t

theorem tracks_pure (a : α) : (Pure.pure a : Act σ α).Tracks := fun _ => ends_pure rfl

theorem tracks_fail (e : Fault) : (fail e : Act σ α).Tracks := fun _ => ends_fail rfl

theorem Tracks.bind {f : α → Act σ β} (hx : x.Tracks) (hf : ∀ a, (f a).Tracks) : (x >>= f).Tracks := by
  intro w
  refine ends_bind ((hx w).mono fun r t w' hl hhost => ?_)
  cases r with
  | error e => exact hhost
  | ok a =>
    refine (hf a w').mono fun _ t' w'' _ hhost' => ?_
    rw [hhost', hhost, hl.here, Host.replay_append]

theorem Tracks.mapFault {f : Fault → Fault} (h : x.Tracks) : (mapFault f x).Tracks := fun w => ends_mapFault (h w)

/-- A program that is run finds the files of the world, and its reply is the host's. -/
theorem run_ends (c : Command) (w : World σ) : (run c).Ends w fun r t w' =>
    r = .ok (Host.run w.here w.files c w.host).1.2 ∧ t = [.command c w.files] ∧
      w'.host = Host.replay w.here w.host t :=
  ⟨[.command c w.files], leads_run c w, rfl, rfl, rfl⟩

end Act

theorem Disk.step_tracks (a : FileAction) : (Disk.step a : Act σ _).Tracks := by
  intro w
  refine (Disk.step_ends a w).result.mono ?_
  rintro r t w' - ⟨hstep, rfl, -⟩
  have hhost : (Disk.step a w).2.host = (Host.disturb a w.host).2 := by
    unfold Disk.step
    dsimp only
    split
    · rfl
    · split <;> rfl
  rw [← hhost.symm.trans (congrArg (fun y => y.2.host) hstep)]
  rfl

theorem Disk.write_tracks (p : Path) (text : String) : (Disk.write p text : Act σ _).Tracks := by
  refine (Disk.step_tracks _).bind fun made => ?_
  split
  · exact Act.tracks_pure _
  · exact Disk.step_tracks _

theorem Registry.get_tracks {reg : Registry} {endpoint : Option String} (hreg : reg = shared endpoint) (key : String) :
    (reg.get key : Act σ _).Tracks := by
  subst hreg
  intro w
  refine (get_ends rfl key w).result.mono ?_
  rintro r t w' - ⟨hget, h⟩
  have hhost : ((shared endpoint).get key w).2.host = (Host.refuse (.get key) w.host).2 := by
    unfold Registry.get noted
    simp only [Store.get, Store.access, Act.asks]
    cases (Host.refuse (.get key) w.host).1 <;> rfl
  rw [hget] at hhost
  rcases h with ⟨-, rfl⟩ | ⟨f, -, rfl, -⟩
  · exact hhost
  · exact hhost

end Rollout
