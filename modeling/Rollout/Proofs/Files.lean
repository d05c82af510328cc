import Rollout.Proofs.Trace
import Rollout.World.Disk

/-!
# Rollout.Proofs.Files — a file holds what was written to it

A path leads through directories only, so putting a file where none of them stands leaves every path as it was.

* `FileTree.Directories.locate`, `locate_put`: a path leads where it led before.
* `FileTree.read_of_write`: what was written is read.
* `Disk.step_ends`, `Disk.step_of_apply`, `Disk.write_ends`: steps on files.
-/

namespace Rollout

namespace FileTree

variable {t t' : FileTree} {here place q : String}

theorem node?_put_of_ne (h : q ≠ place) (n : FileNode) : (t.put place n).node? q = t.node? q := by
  unfold node?
  by_cases hq : q = ""
  · simp [hq]
  · simp only [hq, if_false]
    exact Table.get?_insert_of_ne _ h n

theorem node?_put_self (h : place ≠ "") (n : FileNode) : (t.put place n).node? place = some n := by
  unfold node?
  rw [if_neg h]
  exact Table.get?_insert_self _ _ _

theorem ne_root (h : t.isDirectory place = false) : place ≠ "" := by
  rintro rfl
  cases h

theorem node?_drop_of_ne (h : q ≠ place) : (t.drop place).node? q = t.node? q := by
  unfold node?
  by_cases hq : q = ""
  · simp [hq]
  · simp only [hq, if_false]
    exact Table.get?_erase_of_ne _ h

theorem node?_drop_self (h : place ≠ "") : (t.drop place).node? place = none := by
  unfold node?
  rw [if_neg h]
  exact Table.get?_erase_self _ _

/-- Every directory of one tree is one of another. -/
def Directories (t t' : FileTree) : Prop := ∀ q, t.isDirectory q = true → t'.isDirectory q = true

theorem Directories.trans {t'' : FileTree} (h : t.Directories t') (h' : t'.Directories t'') : t.Directories t'' :=
  fun q hq => h' q (h q hq)

theorem directories_put (n : FileNode) (hplace : t.isDirectory place = false) : t.Directories (t.put place n) := by
  intro q hq
  have hne : q ≠ place := by
    rintro rfl
    simp [hplace] at hq
  rwa [isDirectory, node?_put_of_ne hne]

/-! ## Ways -/

/-- Only directories are passed on a way, so it leads on where they are left in place. -/
theorem Directories.walk {cs : List String} (hdirectories : t.Directories t') (h : walk t q cs = .ok place) :
    walk t' q cs = .ok place := by
  induction cs generalizing q with
  | nil => exact h
  | cons c cs ih =>
    unfold FileTree.walk at h ⊢
    cases hq : t.node? q with
    | none =>
      rw [hq] at h
      cases h
    | some node =>
      rw [hq] at h
      cases node with
      | file text => cases h
      | directory =>
        have hq' : t'.node? q = some .directory := by simpa [isDirectory] using hdirectories q (by simp [isDirectory, hq])
        rw [hq']
        dsimp only at h ⊢
        by_cases hdot : c = "."
        · rw [if_pos hdot] at h ⊢
          exact ih h
        · rw [if_neg hdot] at h ⊢
          by_cases hup : c = ".."
          · rw [if_pos hup] at h ⊢
            exact ih h
          · rw [if_neg hup] at h ⊢
            by_cases hlong : maxName < Text.byteLength c
            · rw [if_pos hlong] at h
              cases h
            · rw [if_neg hlong] at h ⊢
              exact ih h

/-- A path is looked up by a walk, unless its text is none that the system takes. -/
theorem locate_eq_ok {p : Path} : t.locate here p = .ok place ↔
    p.toList.contains (Char.ofNat 0) = false ∧ p ≠ "" ∧ Text.byteLength p ≤ maxPath ∧
      walk t (if p.isAbsolute then "" else here) (components p) = .ok place := by
  unfold locate
  generalize p.toList.contains (Char.ofNat 0) = nul
  cases nul with
  | true => simp
  | false =>
    by_cases hempty : p = ""
    · simp [hempty]
    · by_cases hlong : maxPath < Text.byteLength p
      · simp [hempty, hlong, Nat.not_le.mpr hlong]
      · simp [hempty, hlong, Nat.not_lt.mp hlong]

theorem Directories.locate {p : Path} (hdirectories : t.Directories t') (h : t.locate here p = .ok place) :
    t'.locate here p = .ok place := by
  obtain ⟨hnul, hempty, hlong, hwalk⟩ := locate_eq_ok.mp h
  exact locate_eq_ok.mpr ⟨hnul, hempty, hlong, hdirectories.walk hwalk⟩

/-- What stands at the end of a way does not bend the way. -/
theorem locate_put {p : Path} (n : FileNode) (hplace : t.isDirectory place = false)
    (h : t.locate here p = .ok place) : (t.put place n).locate here p = .ok place :=
  (directories_put n hplace).locate h

/-- A path is read if it leads to a file. -/
theorem read_eq_ok {p : Path} {text : String} :
    t.read here p = .ok text ↔ ∃ place, t.locate here p = .ok place ∧ t.node? place = some (.file text) := by
  unfold read
  cases hlocate : t.locate here p with
  | error e => simp [bind, Except.bind]
  | ok place =>
    cases hnode : t.node? place with
    | none => simp [bind, Except.bind, hnode]
    | some node => cases node <;> simp [bind, Except.bind, hnode, pure, Except.pure]

theorem read_of_located {p place : Path} {text : String} (hlocate : t.locate here p = .ok place)
    (hnode : t.node? place = some (.file text)) : t.read here p = .ok text :=
  read_eq_ok.mpr ⟨place, hlocate, hnode⟩

theorem write_of_located {p : Path} (hlocate : t.locate here p = .ok place) (hplace : t.isDirectory place = false)
    (text : String) : t.write here p text = .ok (t.put place (.file text)) := by
  unfold write
  rw [hlocate]
  simp only [bind, Except.bind, hplace]
  rfl

theorem rename_of_located {source target : Path} {a b text : String} (hsource : t.locate here source = .ok a)
    (htarget : t.locate here target = .ok b) (hnode : t.node? a = some (.file text)) (hb : t.isDirectory b = false) :
    t.rename here source target = .ok ((t.drop a).put b (.file text)) := by
  unfold rename
  rw [hsource, htarget]
  simp only [bind, Except.bind, hnode, hb]
  rfl

theorem remove_of_located {p : Path} {text : String} (hlocate : t.locate here p = .ok place)
    (hnode : t.node? place = some (.file text)) : t.remove here p = .ok (t.drop place) := by
  unfold remove
  rw [hlocate]
  simp only [bind, Except.bind, hnode]
  rfl

/-- A file that was written is read as it was written. -/
theorem read_of_write {p : Path} {text : String} (h : t.write here p text = .ok t') : t'.read here p = .ok text := by
  unfold write at h
  cases hlocate : t.locate here p with
  | error e =>
    rw [hlocate] at h
    cases h
  | ok place =>
    rw [hlocate] at h
    have h : (if t.isDirectory place = true then .error .isDirectory else .ok (t.put place (.file text))) =
      (.ok t' : Except OsFault FileTree) := h
    by_cases hdirectory : t.isDirectory place = true
    · rw [if_pos hdirectory] at h
      cases h
    · rw [if_neg hdirectory] at h
      cases h
      have hplace : t.isDirectory place = false := Bool.not_eq_true _ ▸ hdirectory
      exact read_of_located (locate_put _ hplace hlocate) (node?_put_self (ne_root hplace) _)

end FileTree

namespace Disk

variable {σ : Type} [Host σ]

/-- A step leaves the files as the disturbance has it, and otherwise as the action makes them. -/
theorem step_apply (a : FileAction) (w : World σ) : step a w = match (Host.disturb a w.host).1 with
    | some d => (.ok (.error d.fault),
      { { w with host := (Host.disturb a w.host).2 }.note (.file a) with files := a.leave w.files w.here d.kept })
    | none => match a.apply w.files w.here with
      | .ok files => (.ok (.ok ()), { { w with host := (Host.disturb a w.host).2 }.note (.file a) with files })
      | .error e => (.ok (.error e), { w with host := (Host.disturb a w.host).2 }.note (.file a)) := rfl

/-- A step that succeeds does to the files what it is meant to. -/
theorem step_ends (a : FileAction) (w : World σ) : (step a).Ends w fun r t w' =>
    t = [.file a] ∧ (r = .ok (.ok ()) → a.apply w.files w.here = .ok w'.files) := by
  have hnote := (World.leads_host w (Host.disturb a w.host).2).trans (World.leads_note _ (e := .file a) rfl)
  unfold Act.Ends
  rw [step_apply]
  cases (Host.disturb a w.host).1 with
  | some d =>
    refine ⟨[.file a], ⟨hnote.log, hnote.store, hnote.now, hnote.started, hnote.here⟩, rfl, ?_⟩
    intro h
    cases h
  | none =>
    cases a.apply w.files w.here with
    | ok files => exact ⟨[.file a], ⟨hnote.log, hnote.store, hnote.now, hnote.started, hnote.here⟩, rfl, fun _ => rfl⟩
    | error e =>
      refine ⟨[.file a], hnote, rfl, ?_⟩
      intro h
      cases h

/-- Where the host disturbs nothing, a step does what it is meant to. -/
theorem step_of_apply (hcalm : ∀ (a : FileAction) (s : σ), (Host.disturb a s).1 = none) {a : FileAction} {w : World σ}
    {files : FileTree} (happly : a.apply w.files w.here = .ok files) :
    ∃ w', step a w = (.ok (.ok ()), w') ∧ w'.files = files ∧ w'.here = w.here := by
  refine ⟨{ { w with host := (Host.disturb a w.host).2 }.note (.file a) with files }, ?_, rfl, rfl⟩
  rw [step_apply, hcalm]
  dsimp only
  rw [happly]

/-- Where the host disturbs nothing, all of a text is written behind. -/
theorem fillBehind_of_apply (hcalm : ∀ (a : FileAction) (s : σ), (Host.disturb a s).1 = none) {p : Path}
    {text : String} {w : World σ} {files : FileTree}
    (happly : (FileAction.fill p text).apply w.files w.here = .ok files) :
    ∃ w', fillBehind p text w = (.ok (.ok ()), w') ∧ w'.files = files ∧ w'.here = w.here := by
  obtain ⟨w', hstep, hfiles, hhere⟩ := step_of_apply hcalm happly
  refine ⟨w', ?_, hfiles, hhere⟩
  unfold fillBehind
  rw [hstep, hcalm]
  rfl

theorem read_of_calm (hcalm : ∀ (a : FileAction) (s : σ), (Host.disturb a s).1 = none) {p : Path} {text : String}
    {w : World σ} (h : w.files.read w.here p = .ok text) :
    ∃ w', read p w = (.ok (.ok text), w') ∧ w'.files = w.files ∧ w'.here = w.here := by
  have happly : (FileAction.read p).apply w.files w.here = .ok w.files := congrArg (Except.map fun _ => w.files) h
  obtain ⟨w', hstep, hfiles, hhere⟩ := step_of_apply hcalm happly
  have hread : w'.files.read w'.here p = .ok text := by rw [hfiles, hhere, h]
  refine ⟨w', ?_, hfiles, hhere⟩
  unfold read
  rw [Act.bind_apply, hstep]
  exact congrArg (fun text => (Except.ok text, w')) hread

/-- A file that is said to be written holds its text. -/
theorem write_ends (p : Path) (text : String) (w : World σ) : (write p text).Ends w fun r t w' =>
    (∀ e ∈ t, ∃ a, e = .file a) ∧ (r = .ok (.ok ()) → w'.files.read w.here p = .ok text) := by
  unfold write
  refine Act.ends_bind ((step_ends (.create p) w).mono ?_)
  rintro r t w₁ hl ⟨rfl, -⟩
  have hcreate : ∀ e ∈ [Event.file (.create p)], ∃ a, e = .file a := by simp
  cases r with
  | error f =>
    refine ⟨hcreate, ?_⟩
    intro h
    cases h
  | ok made =>
    cases made with
    | error e =>
      refine Act.ends_pure ⟨by simp, ?_⟩
      intro h
      cases h
    | ok _ =>
      refine (step_ends (.fill p text) w₁).mono ?_
      rintro r t w₂ - ⟨rfl, hfill⟩
      refine ⟨by simp, fun h => ?_⟩
      have hwritten : w₁.files.write w₁.here p text = .ok w₂.files := hfill h
      rw [← hl.here]
      exact FileTree.read_of_write hwritten

end Disk

end Rollout
