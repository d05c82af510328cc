import Rollout.Proofs.Names
import Rollout.Proofs.Registry.Answers

/-!
# Rollout.Proofs.Registry.Directory — a directory keeps documents by key

The document of a key is the text of a file of its own.  No two keys share a file, and no temporary file is the file of
a key, so what is done under one key leaves the documents of the others as they are.

* `Directory.locate_entry`, `Directory.locate_temporary`: the ways to the two files of a key.
* `Directory.Holds`: a directory has the files of the documents that the keys hold, and no other file of a key.
* `Directory.keeps`: a directory keeps a table in this form.
-/

namespace Rollout

/-! ## The files of keys -/

namespace Directory

variable {key key' : String}

/-- The names of the file of a key and of its temporary file fit the limits of the system. -/
def Fits (dir : Path) (key : String) : Prop :=
  Text.byteLength (key ++ ".json") ≤ FileTree.maxName ∧ Text.byteLength (dir.join (key ++ ".json")) ≤ FileTree.maxPath

instance (dir : Path) (key : String) : Decidable (Fits dir key) := inferInstanceAs (Decidable (_ ∧ _))

/-- The place of the file of a key. -/
def entryAt (place key : String) : String := place ++ "/" ++ (key ++ ".json")

/-- The place of the temporary file of a key. -/
def temporaryAt (place key : String) : String := place ++ "/" ++ (key ++ ".tmp")

theorem entryAt_inj {place : String} : entryAt place key = entryAt place key' ↔ key = key' := by
  unfold entryAt
  rw [String.append_right_inj, String.append_left_inj]

/-- The file of a key never is a temporary file. -/
theorem entryAt_ne_temporaryAt (place key key' : String) : entryAt place key ≠ temporaryAt place key' := by
  unfold entryAt temporaryAt
  rw [Ne, String.append_right_inj]
  intro h
  have hlast := congrArg (fun name => name.toList.getLast?) h
  simp at hlast

theorem below_ne_root (place name : String) : place ++ "/" ++ name ≠ "" := by
  intro h
  have hlist := congrArg String.toList h
  simp at hlist

theorem isKeyChar_of_mem (hkey : isKey key = true) {c : Char} (hc : c ∈ key.toList) : isKeyChar c = true := by
  unfold isKey at hkey
  simp only [Bool.and_eq_true, List.all_eq_true] at hkey
  exact hkey.2 c hc

theorem plainName_append {ext : String} (hkey : isKey key = true) (hslash : '/' ∉ ext.toList)
    (hnul : Char.ofNat 0 ∉ ext.toList) (hlength : 3 ≤ ext.toList.length) : FileTree.PlainName (key ++ ext) := by
  have hnot {c : Char} (hc : isKeyChar c = false) (hext : c ∉ ext.toList) : c ∉ (key ++ ext).toList := by
    rw [String.toList_append, List.mem_append]
    rintro (hmem | hmem)
    · have hchar := isKeyChar_of_mem hkey hmem
      rw [hc] at hchar
      cases hchar
    · exact hext hmem
  have hlong : 3 ≤ (key ++ ext).toList.length := by
    rw [String.toList_append, List.length_append]
    omega
  have hother {s : String} (hs : s.toList.length < 3) : key ++ ext ≠ s := by
    rintro rfl
    omega
  exact ⟨hother (by decide), hnot (by decide) hslash, hnot (by decide) hnul, hother (by decide), hother (by decide)⟩

section Ways

variable {t : FileTree} {here place : String} {dir : Path} (hlocate : t.locate here dir = .ok place)
  (hdirectory : t.isDirectory place = true) (hkey : isKey key = true) (hfits : Fits dir key)
include hlocate hdirectory hkey hfits

/-- The way to the file of a key. -/
theorem locate_entry : t.locate here (dir.join (key ++ ".json")) = .ok (entryAt place key) :=
  FileTree.locate_join hlocate hdirectory (plainName_append hkey (by decide) (by decide) (by decide)) hfits.1 hfits.2

/-- The way to the temporary file of a key, whose name is shorter. -/
theorem locate_temporary : t.locate here (temporary dir key) = .ok (temporaryAt place key) := by
  have hdir : dir ≠ "" := (FileTree.locate_eq_ok.mp hlocate).2.1
  have hentry : FileTree.PlainName (key ++ ".json") := plainName_append hkey (by decide) (by decide) (by decide)
  have htemp : FileTree.PlainName (key ++ ".tmp") := plainName_append hkey (by decide) (by decide) (by decide)
  have hshorter : Text.byteLength (key ++ ".tmp") ≤ Text.byteLength (key ++ ".json") := by
    rw [Text.byteLength_append, Text.byteLength_append]
    exact Nat.add_le_add_left (by decide) _
  refine FileTree.locate_join hlocate hdirectory htemp (Nat.le_trans hshorter hfits.1) (Nat.le_trans ?_ hfits.2)
  rw [FileTree.join_eq hdir hentry, FileTree.join_eq hdir htemp, Text.byteLength_append (FileTree.lead dir),
    Text.byteLength_append (FileTree.lead dir)]
  exact Nat.add_le_add_left hshorter _

end Ways

/-! ## The documents -/

/-- The directory at a place has, for each key, the file of the document that the key holds and no other file. -/
structure Holds (σ : Type) (dir : Path) (place : String) (h : String → Option Json) (w : World σ) : Prop where
  located : w.files.locate w.here dir = .ok place
  directory : w.files.isDirectory place = true
  entries : ∀ key, isKey key = true → w.files.node? (entryAt place key) = (h key).map fun value => .file value.pretty
  temporaries : ∀ key, isKey key = true → w.files.node? (temporaryAt place key) = none
  /-- The documents can be read from their texts. -/
  readable : ∀ key value, h key = some value → Json.ofText value.pretty = .ok value

namespace Holds

variable {σ : Type} {w w' : World σ} {h : String → Option Json} {dir : Path} {place key : String}

/-- A directory holds what another one does whose files are the same. -/
theorem same (hholds : Holds σ dir place h w) (hfiles : w'.files = w.files) (hhere : w'.here = w.here) :
    Holds σ dir place h w' := by
  refine ⟨?_, ?_, ?_, ?_, hholds.readable⟩
  · rw [hfiles, hhere]
    exact hholds.located
  · rw [hfiles]
    exact hholds.directory
  · rw [hfiles]
    exact hholds.entries
  · rw [hfiles]
    exact hholds.temporaries

theorem not_directory (hholds : Holds σ dir place h w) (hkey : isKey key = true) :
    w.files.isDirectory (entryAt place key) = false ∧ w.files.isDirectory (temporaryAt place key) = false := by
  unfold FileTree.isDirectory
  rw [hholds.entries key hkey, hholds.temporaries key hkey]
  cases h key <;> simp

/-- The files after the file of a key was written by way of its temporary file. -/
def stored (t : FileTree) (place key text : String) : FileTree :=
  (((t.put (temporaryAt place key) (.file "")).put (temporaryAt place key) (.file text)).drop
    (temporaryAt place key)).put (entryAt place key) (.file text)

theorem node?_stored (t : FileTree) (place key text q : String) : (stored t place key text).node? q =
    if q = entryAt place key then some (.file text)
    else if q = temporaryAt place key then none
    else t.node? q := by
  have hentry : entryAt place key ≠ "" := below_ne_root _ _
  have htemp : temporaryAt place key ≠ "" := below_ne_root _ _
  unfold stored
  by_cases hq : q = entryAt place key
  · rw [if_pos hq, hq, FileTree.node?_put_self hentry]
  · rw [if_neg hq, FileTree.node?_put_of_ne hq]
    by_cases hq' : q = temporaryAt place key
    · rw [if_pos hq', hq', FileTree.node?_drop_self htemp]
    · rw [if_neg hq', FileTree.node?_drop_of_ne hq', FileTree.node?_put_of_ne hq', FileTree.node?_put_of_ne hq']

/-- A directory whose files are changed at the places of a key only. -/
theorem changed (hholds : Holds σ dir place h w) (hkey : isKey key = true) {held : Option Json}
    (hreadable : ∀ value, held = some value → Json.ofText value.pretty = .ok value) (hhere : w'.here = w.here)
    (hnodes : ∀ q, w'.files.node? q = if q = entryAt place key then held.map fun value => .file value.pretty
      else if q = temporaryAt place key then none else w.files.node? q) :
    Holds σ dir place (Function.update h key held) w' := by
  have hdirectories : w.files.Directories w'.files := by
    intro q hq
    have hentry : q ≠ entryAt place key := by
      rintro rfl
      simp [(hholds.not_directory hkey).1] at hq
    have htemp : q ≠ temporaryAt place key := by
      rintro rfl
      simp [(hholds.not_directory hkey).2] at hq
    rwa [FileTree.isDirectory, hnodes, if_neg hentry, if_neg htemp]
  refine ⟨?_, hdirectories _ hholds.directory, ?_, ?_, ?_⟩
  · rw [hhere]
    exact hdirectories.locate hholds.located
  · intro key' hkey'
    rw [hnodes]
    by_cases heq : key' = key
    · subst heq
      rw [if_pos rfl, Function.update_self]
    · rw [if_neg (mt entryAt_inj.mp heq), if_neg (entryAt_ne_temporaryAt _ _ _), Function.update_of_ne heq]
      exact hholds.entries key' hkey'
  · intro key' hkey'
    rw [hnodes, if_neg (entryAt_ne_temporaryAt _ _ _).symm]
    split
    · rfl
    · exact hholds.temporaries key' hkey'
  · exact Registry.forall_update hholds.readable hreadable

end Holds

section Steps

variable {σ : Type} [Host σ] {w : World σ} {h : String → Option Json} {dir : Path} {place key : String}

omit [Host σ] in
theorem orFail_of_ok {α : Type} {what : String} {x : Act σ (Except OsFault α)} {a : α} {w' : World σ}
    (hx : x w = (.ok (.ok a), w')) : orFail what x w = (.ok a, w') := by
  unfold orFail
  rw [Act.bind_of_ok hx]
  rfl

omit [Host σ] in
theorem contains_file (hholds : Holds σ dir place h w) (hkey : isKey key = true) (hfits : Fits dir key) :
    Disk.contains (dir.join (key ++ ".json")) w = (.ok (h key).isSome, w) := by
  have hlocate := locate_entry hholds.located hholds.directory hkey hfits
  have hcontains : w.files.contains w.here (dir.join (key ++ ".json")) = (h key).isSome := by
    unfold FileTree.contains
    rw [hlocate]
    dsimp only
    rw [hholds.entries key hkey]
    cases h key <;> rfl
  exact congrArg (fun present => (Except.ok present, w)) hcontains

/-- The document that a key holds is read from its file. -/
theorem get_eq (hcalm : ∀ (a : FileAction) (s : σ), (Host.disturb a s).1 = none) (hkey : isKey key = true)
    (hfits : Fits dir key) (hholds : Holds σ dir place h w) :
    ∃ w', get dir key w = (.ok (h key), w') ∧ Holds σ dir place h w' := by
  have hfile : fileFor dir key = .ok (dir.join (key ++ ".json")) := if_pos hkey
  unfold get
  rw [hfile, Act.bind_ofExcept_ok, Act.bind_of_ok (contains_file hholds hkey hfits)]
  cases hheld : h key with
  | none => exact ⟨w, rfl, hholds⟩
  | some value =>
    have hnode : w.files.node? (entryAt place key) = some (.file value.pretty) := by
      rw [hholds.entries key hkey, hheld]
      rfl
    have hread : w.files.read w.here (dir.join (key ++ ".json")) = .ok value.pretty :=
      FileTree.read_of_located (locate_entry hholds.located hholds.directory hkey hfits) hnode
    obtain ⟨w', hdisk, hfiles, hhere⟩ := Disk.read_of_calm hcalm hread
    refine ⟨w', ?_, hholds.same hfiles hhere⟩
    rw [if_pos Option.isSome_some, Act.bind_of_ok (orFail_of_ok hdisk), hholds.readable key value hheld]
    rfl

/-- The directory is there, so it is not made. -/
theorem ensure_eq (hholds : Holds σ dir place h w) : ensure dir w = (.ok (), w) := by
  have hcontains : w.files.contains w.here dir = true := by
    have hnode : w.files.node? place = some .directory := by
      simpa [FileTree.isDirectory] using hholds.directory
    unfold FileTree.contains
    rw [hholds.located]
    dsimp only
    rw [hnode]
    rfl
  have hpresent : Disk.contains dir w = (.ok true, w) := congrArg (fun present => (Except.ok present, w)) hcontains
  unfold ensure
  rw [Act.bind_of_ok hpresent]
  rfl

/-- The document of a key is written by way of its temporary file. -/
theorem put_eq (hcalm : ∀ (a : FileAction) (s : σ), (Host.disturb a s).1 = none) (hkey : isKey key = true)
    (hfits : Fits dir key) {value : Json} (hreadable : Json.ofText value.pretty = .ok value)
    (hholds : Holds σ dir place h w) :
    ∃ w', put dir key value w = (.ok (), w') ∧ Holds σ dir place (Function.update h key (some value)) w' := by
  have hfile : fileFor dir key = .ok (dir.join (key ++ ".json")) := if_pos hkey
  have hlocate := locate_entry hholds.located hholds.directory hkey hfits
  have hlocateTemp := locate_temporary hholds.located hholds.directory hkey hfits
  obtain ⟨hentry, htemp⟩ := hholds.not_directory hkey
  have hroot : temporaryAt place key ≠ "" := below_ne_root _ _
  -- The temporary file is made and filled, and then it takes the place of the file.
  let made := w.files.put (temporaryAt place key) (.file "")
  let filled := made.put (temporaryAt place key) (.file value.pretty)
  have hmade : made.isDirectory (temporaryAt place key) = false := by
    simp [made, FileTree.isDirectory, FileTree.node?_put_self hroot]
  have hdirectories : w.files.Directories made := FileTree.directories_put _ htemp
  have hdirectories' : w.files.Directories filled := hdirectories.trans (FileTree.directories_put _ hmade)
  have hfilled : filled.isDirectory (entryAt place key) = false := by
    have hne := entryAt_ne_temporaryAt place key key
    rw [FileTree.isDirectory, FileTree.node?_put_of_ne hne, FileTree.node?_put_of_ne hne]
    exact hentry
  have happly₁ : (FileAction.create (temporary dir key)).apply w.files w.here = .ok made :=
    FileTree.write_of_located hlocateTemp htemp ""
  obtain ⟨w₁, hcreate, hfiles₁, hhere₁⟩ := Disk.step_of_apply hcalm happly₁
  have happly₂ : (FileAction.fill (temporary dir key) value.pretty).apply w₁.files w₁.here = .ok filled := by
    rw [hfiles₁, hhere₁]
    exact FileTree.write_of_located (hdirectories.locate hlocateTemp) hmade value.pretty
  obtain ⟨w₂, hfill, hfiles₂, hhere₂⟩ := Disk.fillBehind_of_apply hcalm happly₂
  have happly₃ : (FileAction.sync (temporary dir key)).apply w₂.files w₂.here = .ok w₂.files := rfl
  obtain ⟨w₃, hsync, hfiles₃, hhere₃⟩ := Disk.step_of_apply hcalm happly₃
  have happly₄ : (FileAction.rename (temporary dir key) (dir.join (key ++ ".json"))).apply w₃.files w₃.here =
      .ok (Holds.stored w.files place key value.pretty) := by
    rw [hfiles₃, hhere₃, hfiles₂, hhere₂, hhere₁]
    exact FileTree.rename_of_located (hdirectories'.locate hlocateTemp) (hdirectories'.locate hlocate)
      (FileTree.node?_put_self hroot _) hfilled
  obtain ⟨w₄, hrename, hfiles₄, hhere₄⟩ := Disk.step_of_apply hcalm happly₄
  refine ⟨w₄, ?_, ?_⟩
  · unfold put
    rw [hfile, Act.bind_ofExcept_ok, Act.bind_of_ok (ensure_eq hholds), Act.bind_of_ok (orFail_of_ok hcreate),
      Act.bind_of_ok (orFail_of_ok hfill), Act.bind_of_ok (orFail_of_ok hsync)]
    exact orFail_of_ok hrename
  · refine hholds.changed hkey ?_ ?_ ?_
    · intro value' hvalue
      rw [← Option.some.inj hvalue]
      exact hreadable
    · rw [hhere₄, hhere₃, hhere₂, hhere₁]
    · intro q
      rw [hfiles₄]
      exact Holds.node?_stored _ _ _ _ _

/-- The file of a key is removed. -/
theorem delete_eq (hcalm : ∀ (a : FileAction) (s : σ), (Host.disturb a s).1 = none) (hkey : isKey key = true)
    (hfits : Fits dir key) (hheld : (h key).isSome = true) (hholds : Holds σ dir place h w) :
    ∃ w', delete dir key w = (.ok (), w') ∧ Holds σ dir place (Function.update h key none) w' := by
  have hfile : fileFor dir key = .ok (dir.join (key ++ ".json")) := if_pos hkey
  obtain ⟨value, hvalue⟩ := Option.isSome_iff_exists.mp hheld
  have hnode : w.files.node? (entryAt place key) = some (.file value.pretty) := by
    rw [hholds.entries key hkey, hvalue]
    rfl
  have happly : (FileAction.remove (dir.join (key ++ ".json"))).apply w.files w.here =
      .ok (w.files.drop (entryAt place key)) :=
    FileTree.remove_of_located (locate_entry hholds.located hholds.directory hkey hfits) hnode
  obtain ⟨w', hremove, hfiles, hhere⟩ := Disk.step_of_apply hcalm happly
  refine ⟨w', ?_, ?_⟩
  · unfold delete
    rw [hfile, Act.bind_ofExcept_ok, Act.bind_of_ok (contains_file hholds hkey hfits), if_pos hheld]
    exact orFail_of_ok hremove
  · refine hholds.changed hkey (fun value hnone => nomatch hnone) hhere fun q => ?_
    rw [hfiles]
    by_cases hq : q = entryAt place key
    · rw [if_pos hq, hq]
      exact FileTree.node?_drop_self (below_ne_root _ _)
    · rw [if_neg hq, FileTree.node?_drop_of_ne hq]
      split
      · rename_i htemp
        rw [htemp]
        exact hholds.temporaries key hkey
      · rfl

theorem delete_absent (hkey : isKey key = true) (hfits : Fits dir key) (hnone : h key = none)
    (hholds : Holds σ dir place h w) : delete dir key w = (.error (.registry (.notFound key)), w) := by
  have hfile : fileFor dir key = .ok (dir.join (key ++ ".json")) := if_pos hkey
  unfold delete
  rw [hfile, Act.bind_ofExcept_ok, Act.bind_of_ok (contains_file hholds hkey hfits), hnone]
  rfl

end Steps

/-- A directory keeps a table of documents, if the host disturbs no step on files and the names fit. -/
theorem keeps {σ : Type} [Host σ] (hcalm : ∀ (a : FileAction) (s : σ), (Host.disturb a s).1 = none) (dir : Path)
    (place : String) : (Registry.directory dir).Keeps (fun key => isKey key = true ∧ Fits dir key)
      (fun value => Json.ofText value.pretty = .ok value) (Holds σ dir place) where
  get key hkey hholds := by
    obtain ⟨w', hget, hholds'⟩ := get_eq hcalm hkey.1 hkey.2 hholds
    exact ⟨_, Registry.noted_of_ok _ hget, hholds'.same rfl rfl⟩
  put key _ hkey hreadable hholds := by
    obtain ⟨w', hput, hholds'⟩ := put_eq hcalm hkey.1 hkey.2 hreadable hholds
    exact ⟨_, Registry.noted_of_ok _ hput, hholds'.same rfl rfl⟩
  delete key hkey hheld hholds := by
    obtain ⟨w', hdelete, hholds'⟩ := delete_eq hcalm hkey.1 hkey.2 hheld hholds
    exact ⟨_, Registry.noted_of_ok _ hdelete, hholds'.same rfl rfl⟩
  delete_absent key hkey hnone hholds :=
    ⟨_, Registry.noted_of_error _ (delete_absent hkey.1 hkey.2 hnone hholds), hholds.same rfl rfl⟩

/-- A directory in which nothing stands holds no document. -/
theorem holds_nothing {σ : Type} {w : World σ} {dir : Path} {place : String}
    (hlocate : w.files.locate w.here dir = .ok place) (hdirectory : w.files.isDirectory place = true)
    (hempty : ∀ name, w.files.node? (place ++ "/" ++ name) = none) :
    Holds σ dir place (fun _ => none) w :=
  ⟨hlocate, hdirectory, fun _ _ => hempty _, fun _ _ => hempty _, fun _ _ h => nomatch h⟩

end Directory

end Rollout
