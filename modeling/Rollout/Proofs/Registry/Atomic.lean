import Rollout.Proofs.Made
import Rollout.Proofs.Obliging
import Rollout.Proofs.Registry.Directory
import Rollout.Proofs.Registry.Keys

/-!
# Rollout.Proofs.Registry.Atomic — a document is replaced in one step

A put may be disturbed at any of its steps, and then it stops; a process that dies stops as well.  Until the last step
the files of the keys are those of before, as no temporary file is the file of a key, and this last step is the only one
that changes one of them.  But of the text that is written behind a part may be lost without a word, and then it is the
rest that takes the place of the file.  What is found under the key then is what is read from the text in its file.

* `Directory.Entries`: the file of each key has the text that the key holds; one lemma for each step.
* `Directory.told`, `Directory.get_told`: what is found under a key.
* `Directory.put_ends`: a put that may end anywhere.
* `Directory.replies_entries`: requests of any kind that may end anywhere.
* `Directory.put_replaces`: a put replaces one text by what has landed of another, or none at all.
* `Directory.put_rounded`: of a number, what is found need not be the number that was put.
-/

namespace Rollout

/-! ## The files of a directory -/

namespace Directory

open FileTree (target passed origin Seen)

variable {t t' : FileTree} {here key q : String} {dir : Path} {held : String → Option String}

/-- A key whose file is no directory on the way to the directory. -/
def Kept (here : String) (dir : Path) (key : String) : Prop :=
  isKey key = true ∧ entryAt (target here dir) key ∉ passed (origin here dir) dir.names

/-- On a way that never leads up there is no file of a key. -/
theorem kept_of_isKey (hup : ".." ∉ dir.names) (hkey : isKey key = true) : Kept here dir key :=
  ⟨hkey, FileTree.not_mem_passed hup _⟩

/-- The file of a key has the text that the key holds, and is found, or there is none. -/
structure Entries (here : String) (dir : Path) (held : String → Option String) (t : FileTree) : Prop where
  files : ∀ key, Kept here dir key → t.node? (entryAt (target here dir) key) = (held key).map .file
  seen : ∀ key text, held key = some text → t.Seen here dir (target here dir) ∧ Fits dir key

/-- What a key holds after one of the keys came to hold nothing, it held before. -/
theorem held_of_update_none {key' text : String} (h : Function.update held key none key' = some text) :
    held key' = some text := by
  rw [Function.update_apply] at h
  split at h
  · cases h
  · exact h

/-- What a key holds after one of the keys came to hold a text is that text, or it held it before. -/
theorem held_of_update_some {key' text text' : String} (h : Function.update held key (some text) key' = some text') :
    key' = key ∧ text' = text ∨ held key' = some text' := by
  rw [Function.update_apply] at h
  split at h
  · rename_i heq
    exact .inl ⟨heq, (Option.some.inj h).symm⟩
  · exact .inr h

/-- All that is changed are the two files of a key, and directories that are made on the way to the directory. -/
def Spares (here : String) (dir : Path) (key : String) (t t' : FileTree) : Prop :=
  ∀ q, q ≠ entryAt (target here dir) key → q ≠ temporaryAt (target here dir) key →
    t'.node? q = t.node? q ∨ q ∈ passed (origin here dir) dir.names ∧ t.node? q = none ∧ t'.node? q = some .directory

theorem Spares.trans {t'' : FileTree} (h : Spares here dir key t t') (h' : Spares here dir key t' t'') :
    Spares here dir key t t'' := by
  intro q hentry htemporary
  rcases h q hentry htemporary with heq | ⟨hq, hnone, hmade⟩
  · rw [← heq]
    exact h' q hentry htemporary
  · rcases h' q hentry htemporary with heq | ⟨-, hnone', -⟩
    · exact .inr ⟨hq, hnone, heq.trans hmade⟩
    · rw [hmade] at hnone'
      cases hnone'

theorem spares_of_node? (h : ∀ q, q ≠ entryAt (target here dir) key → q ≠ temporaryAt (target here dir) key →
    t'.node? q = t.node? q) : Spares here dir key t t' := fun q hentry htemporary => .inl (h q hentry htemporary)

theorem made_spares (h : t.Made t' (dir.lineage.map (target here))) : Spares here dir key t t' := by
  intro q _ _
  refine (h q).imp_right fun ⟨hq, hnodes⟩ => ⟨?_, hnodes⟩
  obtain ⟨p, hp, rfl⟩ := List.mem_map.mp hq
  exact FileTree.target_mem_passed hp

theorem plainName_entry (hkey : isKey key = true) : FileTree.PlainName (key ++ ".json") :=
  plainName_append hkey (by decide) (by decide) (by decide)

theorem plainName_temporary (hkey : isKey key = true) : FileTree.PlainName (key ++ ".tmp") :=
  plainName_append hkey (by decide) (by decide) (by decide)

/-- The way to the file of a key leads through the directory. -/
theorem seen_of_locate_entry (hkey : isKey key = true) (h : t.locate here (dir.join (key ++ ".json")) = .ok q) :
    t.Seen here dir (target here dir) ∧ q = entryAt (target here dir) key ∧ Fits dir key :=
  FileTree.seen_of_locate_join (plainName_entry hkey) h

theorem eq_temporaryAt (hkey : isKey key = true) (h : t.locate here (temporary dir key) = .ok q) :
    q = temporaryAt (target here dir) key :=
  (FileTree.seen_of_locate_join (plainName_temporary hkey) h).2.1

namespace Entries

/-- A directory in which there are no files of keys. -/
theorem none (h : ∀ key, isKey key = true → t.node? (entryAt (target here dir) key) = none) :
    Entries here dir (fun _ => Option.none) t := ⟨fun key hkey => h key hkey.1, fun _ _ h => nomatch h⟩

variable (hentries : Entries here dir held t)
include hentries

theorem made (h : t.Made t' (dir.lineage.map (target here))) : Entries here dir held t' := by
  refine ⟨fun key hkey => ?_, fun key text htext => ?_⟩
  · rcases h (entryAt (target here dir) key) with heq | ⟨hmem, -⟩
    · rw [heq]
      exact hentries.files key hkey
    · obtain ⟨p, hp, heq⟩ := List.mem_map.mp hmem
      exact absurd (heq ▸ FileTree.target_mem_passed hp) hkey.2
  · obtain ⟨hseen, hfits⟩ := hentries.seen key text htext
    exact ⟨hseen.mono h.directories, hfits⟩

/-- A temporary file is written beside the files of the keys. -/
theorem write {text : String} (hkey : isKey key = true) (h : t.write here (temporary dir key) text = .ok t') :
    Entries here dir held t' ∧ Spares here dir key t t' ∧
      t'.node? (temporaryAt (target here dir) key) = some (.file text) := by
  obtain ⟨place, hlocate, hplace, rfl⟩ := FileTree.write_eq_ok h
  obtain rfl := eq_temporaryAt hkey hlocate
  refine ⟨⟨fun key' hkey' => ?_, fun key' text' htext' => ?_⟩, spares_of_node? fun q _ hq => ?_, ?_⟩
  · rw [FileTree.node?_put_of_ne (entryAt_ne_temporaryAt _ _ _)]
    exact hentries.files key' hkey'
  · obtain ⟨hseen, hfits⟩ := hentries.seen key' text' htext'
    exact ⟨hseen.mono (FileTree.directories_put _ hplace), hfits⟩
  · exact FileTree.node?_put_of_ne hq _
  · exact FileTree.node?_put_self (FileTree.ne_root hplace) _

/-- The temporary file takes the place of the file of the key. -/
theorem rename {text : String} (hkey : isKey key = true)
    (htemporary : t.node? (temporaryAt (target here dir) key) = some (.file text))
    (h : t.rename here (temporary dir key) (dir.join (key ++ ".json")) = .ok t') :
    Entries here dir (Function.update held key (some text)) t' ∧ Spares here dir key t t' := by
  obtain ⟨a, b, text', hsource, haim, hnode, hb, rfl⟩ := FileTree.rename_eq_ok h
  obtain rfl := eq_temporaryAt hkey hsource
  obtain ⟨hseen, rfl, hfits⟩ := seen_of_locate_entry hkey haim
  obtain rfl : text' = text := by simpa using hnode.symm.trans htemporary
  have hne := entryAt_ne_temporaryAt (target here dir)
  have ha : t.isDirectory (temporaryAt (target here dir) key) = false := by simp [FileTree.isDirectory, htemporary]
  have hdropped : (t.drop (temporaryAt (target here dir) key)).isDirectory (entryAt (target here dir) key) = false := by
    rw [FileTree.isDirectory, FileTree.node?_drop_of_ne (hne key key)]
    exact hb
  have hdirectories : t.Directories ((t.drop (temporaryAt (target here dir) key)).put (entryAt (target here dir) key)
      (.file text')) := (FileTree.directories_drop ha).trans (FileTree.directories_put _ hdropped)
  refine ⟨⟨fun key' hkey' => ?_, fun key' held' hheld' => ?_⟩, spares_of_node? fun q hq hq' => ?_⟩
  · by_cases heq : key' = key
    · subst heq
      rw [Function.update_self]
      exact FileTree.node?_put_self (below_ne_root _ _) _
    · rw [Function.update_of_ne heq]
      exact (FileTree.node?_put_of_ne (mt entryAt_inj.mp heq) _).trans
        ((FileTree.node?_drop_of_ne (hne key' key)).trans (hentries.files key' hkey'))
  · rcases held_of_update_some hheld' with ⟨rfl, -⟩ | hbefore
    · exact ⟨hseen.mono hdirectories, hfits⟩
    · obtain ⟨hseen', hfits'⟩ := hentries.seen key' held' hbefore
      exact ⟨hseen'.mono hdirectories, hfits'⟩
  · exact (FileTree.node?_put_of_ne hq _).trans (FileTree.node?_drop_of_ne hq')

/-- The file of a key is there exactly if the key holds a text. -/
theorem contains (hkey : Kept here dir key) :
    t.contains here (dir.join (key ++ ".json")) = (held key).isSome := by
  have hnode := hentries.files key hkey
  unfold FileTree.contains
  split
  · rename_i place hlocate
    rw [(seen_of_locate_entry hkey.1 hlocate).2.1, hnode, Option.isSome_map]
  · rename_i e hlocate
    cases hheld : held key with
    | none => rfl
    | some text =>
      obtain ⟨hseen, hfits⟩ := hentries.seen key text hheld
      rw [hseen.locate_join (plainName_entry hkey.1) hfits.1 hfits.2] at hlocate
      cases hlocate

theorem read {text : String} (hkey : Kept here dir key) (hheld : held key = some text) :
    t.read here (dir.join (key ++ ".json")) = .ok text := by
  obtain ⟨hseen, hfits⟩ := hentries.seen key text hheld
  have hnode := hentries.files key hkey
  rw [hheld] at hnode
  exact FileTree.read_of_located (hseen.locate_join (plainName_entry hkey.1) hfits.1 hfits.2) hnode

/-- The file of a key is removed. -/
theorem remove (hkey : isKey key = true) (h : t.remove here (dir.join (key ++ ".json")) = .ok t') :
    Entries here dir (Function.update held key Option.none) t' := by
  obtain ⟨place, text, hlocate, hnode, rfl⟩ := FileTree.remove_eq_ok h
  obtain ⟨-, rfl, -⟩ := seen_of_locate_entry hkey hlocate
  have hplace : t.isDirectory (entryAt (target here dir) key) = false := by simp [FileTree.isDirectory, hnode]
  refine ⟨fun key' hkey' => ?_, fun key' text' htext' => ?_⟩
  · by_cases heq : key' = key
    · subst heq
      rw [Function.update_self]
      exact FileTree.node?_drop_self (below_ne_root _ _)
    · rw [Function.update_of_ne heq]
      exact (FileTree.node?_drop_of_ne (mt entryAt_inj.mp heq)).trans (hentries.files key' hkey')
  · obtain ⟨hseen, hfits⟩ := hentries.seen key' text' (held_of_update_none htext')
    exact ⟨hseen.mono (FileTree.directories_drop hplace), hfits⟩

end Entries

/-! ## What is read -/

section Reading

variable {σ : Type} [Host σ] {w : World σ}

omit [Host σ] in
theorem orFail_of_error {α : Type} {what : String} {x : Act σ (Except OsFault α)} {e : OsFault} {w' : World σ}
    (hx : x w = (.ok (.error e), w')) : orFail what x w = (.error (transport what e), w') := by
  unfold orFail
  rw [Act.bind_of_ok hx]
  rfl

/-- What a look at a key is told of the text that it holds: the document that is read from it, if the host lets the file
be read. -/
def told (dir : Path) (key : String) (s : σ) : Option String → Except Fault (Option Json)
  | none => .ok none
  | some text =>
    match (Host.disturb (.read (dir.join (key ++ ".json"))) s).1 with
    | some d => .error (transport ("Failed to read " ++ dir.join (key ++ ".json")) d.fault)
    | none =>
      match Json.ofText text with
      | .ok value => .ok (some value)
      | .error e => .error (.registry (.corrupted key e.message))

/-- A look at a key is told of the text that the key holds, and changes no file. -/
theorem get_told (hkey : Kept w.here dir key) (h : Entries w.here dir held w.files) :
    (get dir key w).1 = told dir key w.host (held key) ∧ (get dir key w).2.files = w.files := by
  have hfile : fileFor dir key = .ok (dir.join (key ++ ".json")) := if_pos hkey.1
  have hlooked : Disk.contains (dir.join (key ++ ".json")) w = (.ok (held key).isSome, w) :=
    congrArg (fun present => (Except.ok present, w)) (h.contains hkey)
  unfold get
  rw [hfile, Act.bind_ofExcept_ok, Act.bind_of_ok hlooked]
  cases hheld : held key with
  | none => exact ⟨rfl, rfl⟩
  | some text =>
    have hdisk := Disk.read_apply (h.read hkey hheld)
    unfold told
    rw [if_pos Option.isSome_some]
    cases hdisturb : (Host.disturb (.read (dir.join (key ++ ".json"))) w.host).1 with
    | some d =>
      rw [hdisturb] at hdisk
      rw [Act.bind_of_error (orFail_of_error hdisk)]
      exact ⟨rfl, rfl⟩
    | none =>
      rw [hdisturb] at hdisk
      rw [Act.bind_of_ok (orFail_of_ok hdisk)]
      dsimp only
      cases Json.ofText text with
      | ok value => exact ⟨rfl, rfl⟩
      | error e => exact ⟨rfl, rfl⟩

end Reading

/-! ## What is written -/

section Writing

variable {σ : Type} [Host σ] {w : World σ} {value : Json}

/-- The steps by which a document is written, once the directory is there. -/
def writes (dir : Path) (key : String) (value : Json) : List FileAction :=
  [.create (temporary dir key), .fill (temporary dir key) value.pretty, .sync (temporary dir key),
    .rename (temporary dir key) (dir.join (key ++ ".json"))]

/-- The world in which the temporary file is there and has still to be filled. -/
def opened (dir : Path) (key : String) (w : World σ) : World σ :=
  (orFail "Failed to create temp file" (Disk.step (.create (temporary dir key))) (ensure dir w).2).2

/-- A put that may have ended anywhere: the keys hold what they held before, unless all of it was done; then the key
holds what has landed of the text of the document.  First directories were made, and then the first of the steps were
taken, or all of them. -/
structure Settles (dir : Path) (key : String) (value : Json) (held : String → Option String) (w : World σ)
    (result : Except Fault Unit) (t : List Event) (w' : World σ) : Prop where
  failed : result ≠ .ok () → Entries w.here dir held w'.files
  done : result = .ok () → ∃ text, Disk.Lands (opened dir key w).host (temporary dir key) value.pretty text ∧
    Entries w.here dir (Function.update held key (some text)) w'.files
  spares : Spares w.here dir key w.files w'.files
  steps : ∃ made n, t = made ++ ((writes dir key value).take n).map .file ∧
    (∀ e ∈ made, ∃ p ∈ dir.lineage, e = .file (.makeDir p)) ∧ (result = .ok () → n = 4)

theorem step_ends (what : String) (a : FileAction) (w : World σ) :
    (orFail what (Disk.step a)).Ends w fun r t w' => t = [.file a] ∧
      (r = .ok () ∧ a.apply w.files w.here = .ok w'.files ∨
        ∃ f, r = .error f ∧ (w'.files = w.files ∨ ∃ kept, w'.files = a.leave w.files w.here kept)) := by
  unfold orFail
  refine Act.ends_bind ((Disk.step_leaves a w).mono ?_)
  rintro r t w' - ⟨rfl, ⟨rfl, happly⟩ | ⟨e, rfl, hfiles⟩⟩
  · exact Act.ends_pure ⟨rfl, .inl ⟨rfl, happly⟩⟩
  · exact Act.ends_fail ⟨rfl, .inr ⟨_, rfl, hfiles⟩⟩

/-- The directory is there or is made, or some of the directories above it are. -/
theorem ensure_ends (dir : Path) (w : World σ) :
    (ensure dir).Ends w fun _ t w' => Disk.Makes w dir.lineage t w' := by
  unfold ensure
  refine Act.ends_bind (Act.ends_asks ?_)
  dsimp only
  split
  · exact Act.ends_pure (.refl w _)
  · unfold orFail
    refine Act.ends_bind ((Disk.makeDirsIn_makes dir.lineage w).mono ?_)
    rintro (f | r) t w' - hmakes
    · exact hmakes
    dsimp only
    split
    · exact Act.ends_pure (by simpa using hmakes)
    · exact Act.ends_fail (by simpa using hmakes)

/-- What holds after some of the steps of a put: no file of a key has changed. -/
structure Midway (dir : Path) (key : String) (held : String → Option String) (w w' : World σ) : Prop where
  here : w'.here = w.here
  entries : Entries w.here dir held w'.files
  spares : Spares w.here dir key w.files w'.files

variable {w₁ w₂ : World σ}

omit [Host σ] in
theorem Midway.same (h : Midway dir key held w w₁) (hhere : w₂.here = w₁.here) (hfiles : w₂.files = w₁.files) :
    Midway dir key held w w₂ :=
  ⟨hhere.trans h.here, hfiles ▸ h.entries, hfiles ▸ h.spares⟩

omit [Host σ] in
/-- A text is written to the temporary file. -/
theorem Midway.write {text : String} (h : Midway dir key held w w₁) (hkey : isKey key = true)
    (hhere : w₂.here = w₁.here) (hwrite : w₁.files.write w₁.here (temporary dir key) text = .ok w₂.files) :
    Midway dir key held w w₂ ∧ w₂.files.node? (temporaryAt (target w.here dir) key) = some (.file text) := by
  rw [h.here] at hwrite
  obtain ⟨hentries, hspares, hnode⟩ := h.entries.write hkey hwrite
  exact ⟨⟨hhere.trans h.here, hentries, h.spares.trans hspares⟩, hnode⟩

/-- The temporary file is made, and then any text can be written to it. -/
theorem create_ends (h : Midway dir key held w w₁) (hkey : isKey key = true) (what : String) :
    (orFail what (Disk.step (.create (temporary dir key)))).Ends w₁ fun r t w' =>
      t = [.file (.create (temporary dir key))] ∧ Midway dir key held w w' ∧
        (r = .ok () → ∀ text, ∃ files, w'.files.write w'.here (temporary dir key) text = .ok files) := by
  refine (step_ends what _ w₁).mono ?_
  rintro r t w' hl ⟨rfl, ⟨-, happly⟩ | ⟨f, rfl, hleft⟩⟩
  · exact ⟨rfl, (h.write hkey hl.here happly).1, fun _ text => hl.here ▸ FileTree.write_again happly text⟩
  · exact ⟨rfl, h.same hl.here (hleft.elim id fun ⟨_, hfiles⟩ => hfiles), (nomatch ·)⟩

/-- It is filled with what lands of the text, or with some of it at most. -/
theorem fill_ends (h : Midway dir key held w w₁) (hkey : isKey key = true) (what text : String)
    (hopen : ∀ text, ∃ files, w₁.files.write w₁.here (temporary dir key) text = .ok files) :
    (orFail what (Disk.fillBehind (temporary dir key) text)).Ends w₁ fun r t w' =>
      t = [.file (.fill (temporary dir key) text)] ∧ Midway dir key held w w' ∧
        (r = .ok () → ∃ landed, Disk.Lands w₁.host (temporary dir key) text landed ∧
          w'.files.node? (temporaryAt (target w.here dir) key) = some (.file landed)) := by
  unfold orFail
  refine Act.ends_bind ((Disk.fillBehind_leaves _ _ w₁).mono ?_)
  rintro r t w' hl ⟨rfl, hfiles, hfilled⟩
  have hmidway : Midway dir key held w w' := by
    rcases hfiles with hsame | ⟨landed, hwrite⟩
    · exact h.same hl.here hsame
    · exact (h.write hkey hl.here hwrite).1
  rcases r with f | e | _
  · exact ⟨rfl, hmidway, (nomatch ·)⟩
  · exact Act.ends_fail ⟨rfl, hmidway, (nomatch ·)⟩
  · obtain ⟨landed, hlands, hleft⟩ := hfilled rfl
    obtain ⟨files, hwrite⟩ := hopen landed
    have hnode := (h.write hkey hl.here (hleft files hwrite ▸ hwrite)).2
    exact Act.ends_pure ⟨rfl, hmidway, fun _ => ⟨landed, hlands, hnode⟩⟩

theorem sync_ends (h : Midway dir key held w w₁) (what : String) :
    (orFail what (Disk.step (.sync (temporary dir key)))).Ends w₁ fun _ t w' =>
      t = [.file (.sync (temporary dir key))] ∧ Midway dir key held w w' ∧ w'.files = w₁.files := by
  refine (step_ends what _ w₁).mono ?_
  rintro r t w' hl ⟨rfl, hsynced⟩
  have hfiles : w'.files = w₁.files := by
    rcases hsynced with ⟨-, happly⟩ | ⟨f, -, hsame | ⟨kept, hsame⟩⟩
    · exact (Except.ok.inj happly).symm
    · exact hsame
    · exact hsame
  exact ⟨rfl, h.same hl.here hfiles, hfiles⟩

/-- The temporary file takes the place of the file of the key, or nothing changes. -/
theorem rename_ends {text : String} (h : Midway dir key held w w₁) (hkey : isKey key = true) (what : String)
    (htemporary : w₁.files.node? (temporaryAt (target w.here dir) key) = some (.file text)) :
    (orFail what (Disk.step (.rename (temporary dir key) (dir.join (key ++ ".json"))))).Ends w₁ fun r t w' =>
      t = [.file (.rename (temporary dir key) (dir.join (key ++ ".json")))] ∧
        Spares w.here dir key w.files w'.files ∧ (r ≠ .ok () → Entries w.here dir held w'.files) ∧
          (r = .ok () → Entries w.here dir (Function.update held key (some text)) w'.files) := by
  refine (step_ends what _ w₁).mono ?_
  rintro r t w' hl ⟨rfl, ⟨rfl, happly⟩ | ⟨f, rfl, hleft⟩⟩
  · obtain ⟨hentries, hspares⟩ := h.entries.rename hkey htemporary (h.here ▸ happly)
    exact ⟨rfl, h.spares.trans hspares, (absurd rfl ·), fun _ => hentries⟩
  · have hmidway := h.same hl.here (hleft.elim id fun ⟨_, hfiles⟩ => hfiles)
    exact ⟨rfl, hmidway.spares, fun _ => hmidway.entries, (nomatch ·)⟩

theorem put_ends (value : Json) (hkey : isKey key = true) (h : Entries w.here dir held w.files) :
    (put dir key value).Ends w (Settles dir key value held w) := by
  have hfile : fileFor dir key = .ok (dir.join (key ++ ".json")) := if_pos hkey
  -- What holds if the put ends after some of its steps.
  have stopped {f : Fault} {made : List Event} {w' : World σ} (n : Nat)
      (hmade : ∀ e ∈ made, ∃ p ∈ dir.lineage, e = .file (.makeDir p)) (hmidway : Midway dir key held w w') :
      Settles dir key value held w (.error f) (made ++ ((writes dir key value).take n).map .file) w' :=
    ⟨fun _ => hmidway.entries, (nomatch ·), hmidway.spares, made, n, rfl, hmade, (nomatch ·)⟩
  unfold put
  rw [hfile]
  refine Act.ends_bind (Act.ends_ofExcept ?_)
  dsimp only
  refine Act.ends_bind ((ensure_ends dir w).result.mono ?_)
  rintro r made w₁ - ⟨hensure, hmakes⟩
  have h₁ : Midway dir key held w w₁ := ⟨hmakes.here, h.made hmakes.made, made_spares hmakes.made⟩
  cases r with
  | error f => simpa using stopped (f := f) 0 hmakes.steps h₁
  | ok =>
    refine Act.ends_bind ((create_ends h₁ hkey _).result.mono ?_)
    rintro (f | _) t₂ w₂ - ⟨hcreate, rfl, h₂, hopen⟩
    · simpa [writes] using stopped (f := f) 1 hmakes.steps h₂
    have hopened : opened dir key w = w₂ := by
      unfold opened
      rw [hensure, hcreate]
    refine Act.ends_bind ((fill_ends h₂ hkey _ _ (hopen rfl)).mono ?_)
    rintro (f | _) t₃ w₃ - ⟨rfl, h₃, hfilled⟩
    · simpa [writes] using stopped (f := f) 2 hmakes.steps h₃
    refine Act.ends_bind ((sync_ends h₃ _).mono ?_)
    rintro (f | _) t₄ w₄ - ⟨rfl, h₄, hsynced⟩
    · simpa [writes] using stopped (f := f) 3 hmakes.steps h₄
    obtain ⟨landed, hlands, hnode⟩ := hfilled rfl
    refine (rename_ends h₄ hkey _ (hsynced ▸ hnode)).mono ?_
    rintro r t₅ w₅ - ⟨rfl, hspares, hfailed, hdone⟩
    exact ⟨hfailed, fun hok => ⟨landed, hopened ▸ hlands, hdone hok⟩, hspares, made, 4, by simp [writes], hmakes.steps,
      fun _ => rfl⟩

theorem put_invalid (hkey : isKey key = false) (value : Json) (w : World σ) :
    put dir key value w = (.error (.registry (.invalidKey key)), w) := by
  have hfile : fileFor dir key = .error (.registry (.invalidKey key)) := if_neg (by simp [hkey])
  unfold put
  rw [hfile]
  rfl

theorem get_invalid (hkey : isKey key = false) (w : World σ) :
    get dir key w = (.error (.registry (.invalidKey key)), w) := by
  have hfile : fileFor dir key = .error (.registry (.invalidKey key)) := if_neg (by simp [hkey])
  unfold get
  rw [hfile]
  rfl

/-- The file of a key is removed, or all stays as it was. -/
theorem delete_ends (dir : Path) (key : String) (h : Entries w.here dir held w.files) :
    (delete dir key).Ends w fun _ _ w' => Entries w.here dir held w'.files ∨
      Entries w.here dir (Function.update held key none) w'.files := by
  unfold delete
  refine Act.ends_bind (Act.ends_ofExcept ?_)
  cases hkey : isKey key with
  | false =>
    have hfile : fileFor dir key = .error (.registry (.invalidKey key)) := if_neg (by simp [hkey])
    rw [hfile]
    exact .inl h
  | true =>
    have hfile : fileFor dir key = .ok (dir.join (key ++ ".json")) := if_pos hkey
    rw [hfile]
    dsimp only
    refine Act.ends_bind (Act.ends_asks ?_)
    dsimp only
    split
    · refine (step_ends _ _ w).mono ?_
      rintro r t w' - ⟨-, ⟨-, happly⟩ | ⟨f, -, hleft⟩⟩
      · exact .inr (h.remove hkey happly)
      · have hfiles : w'.files = w.files := hleft.elim id fun ⟨_, h⟩ => h
        exact .inl (hfiles ▸ h)
    · exact Act.ends_fail (.inl h)

end Writing

/-! ## After any requests -/

section History

variable {σ : Type} [Host σ] {w : World σ}

/-- Under a key the request stores a document of which this text may have landed in the file of the key. -/
def Stores (σ : Type) [Host σ] (dir : Path) (op : Registry.Op) (key text : String) : Prop :=
  op.key = key ∧ ∃ (value : Json) (s : σ), op.stored? = some value ∧
    Disk.Lands s (temporary dir key) value.pretty text

/-- On the way to another world a key came to hold at most what is `Given` to it. -/
def Follows {σ : Type} (dir : Path) (Given : String → String → Prop) (w w' : World σ) : Prop :=
  w'.here = w.here ∧ ∀ held, Entries w.here dir held w.files → ∃ held', Entries w.here dir held' w'.files ∧
    ∀ key text, held' key = some text → held key = some text ∨ Given key text

omit [Host σ] in
theorem noted_files {α : Type} (a : Access) (x : Act σ α) (w : World σ) :
    (Registry.noted a x w).2.files = (x w).2.files := by
  unfold Registry.noted
  rcases x w with ⟨f | r, w'⟩
  · rfl
  · rfl

theorem put_follows (op : Registry.Op) {value : Json} (hstored : op.stored? = some value) (dir : Path) (w : World σ) :
    Follows dir (Stores σ dir op) w ((Registry.directory dir).put op.key value w).2 := by
  let key := op.key
  refine ⟨(((Registry.directory dir).put_within key value).becomes w).here, fun held h => ?_⟩
  have hfiles : ((Registry.directory dir).put key value w).2.files = (put dir key value w).2.files := noted_files _ _ w
  rw [hfiles]
  cases hkey : isKey key with
  | false =>
    rw [put_invalid hkey]
    exact ⟨held, h, fun _ _ => .inl⟩
  | true =>
    obtain ⟨t, -, hsettles⟩ := put_ends value hkey h
    by_cases hok : (put dir key value w).1 = .ok ()
    · obtain ⟨text, hlands, hentries⟩ := hsettles.done hok
      refine ⟨_, hentries, fun key' text' htext' => ?_⟩
      rcases held_of_update_some htext' with ⟨heq, rfl⟩ | hbefore
      · exact .inr ⟨heq.symm, value, _, hstored, heq ▸ hlands⟩
      · exact .inl hbefore
    · exact ⟨held, hsettles.failed hok, fun _ _ => .inl⟩

theorem delete_follows (dir : Path) (key : String) (w : World σ) (Given : String → String → Prop) :
    Follows dir Given w ((Registry.directory dir).delete key w).2 := by
  refine ⟨(((Registry.directory dir).delete_within key).becomes w).here, fun held h => ?_⟩
  have hfiles : ((Registry.directory dir).delete key w).2.files = (delete dir key w).2.files := noted_files _ _ w
  rw [hfiles]
  obtain ⟨t, -, hsame | hremoved⟩ := delete_ends dir key h
  · exact ⟨held, hsame, fun _ _ => .inl⟩
  · exact ⟨_, hremoved, fun _ _ htext => .inl (held_of_update_none htext)⟩

/-- After a request a key holds what it held, or nothing, or what the request stores under it. -/
theorem perform_follows (dir : Path) (op : Registry.Op) (w : World σ) :
    Follows dir (Stores σ dir op) w ((Registry.directory dir).perform op w).2 := by
  cases op with
  | get key =>
    have hworld : ((Registry.directory dir).perform (.get key) w).2 = ((Registry.directory dir).get key w).2 :=
      Act.world_bind (fun _ _ => rfl) w
    have hbecomes := ((Registry.directory dir).get_within key).becomes w
    have hfiles : ((Registry.directory dir).get key w).2.files = w.files := hbecomes.files fun _ ha => ha
    rw [hworld]
    exact ⟨hbecomes.here, fun held h => ⟨held, hfiles ▸ h, fun _ _ => .inl⟩⟩
  | put key value =>
    have hworld : ((Registry.directory dir).perform (.put key value) w).2 =
        ((Registry.directory dir).put key value w).2 := Act.world_bind (fun _ _ => rfl) w
    rw [hworld]
    exact put_follows (.put key value) rfl dir w
  | update key value =>
    have hworld : ((Registry.directory dir).perform (.update key value) w).2 =
        ((Registry.directory dir).put key value.sort w).2 := Act.world_bind (fun _ _ => rfl) w
    rw [hworld]
    exact put_follows (.update key value) rfl dir w
  | delete key =>
    have hworld : ((Registry.directory dir).perform (.delete key) w).2 = ((Registry.directory dir).delete key w).2 :=
      Act.world_bind (fun _ _ => rfl) w
    rw [hworld]
    exact delete_follows dir key w _
  | deleteIfPresent key =>
    have hworld : ((Registry.directory dir).perform (.deleteIfPresent key) w).2 =
        ((Registry.directory dir).delete key w).2 := by
      refine (Act.world_bind (fun _ _ => rfl) w).trans (Act.world_bind ?_ w)
      intro deleted w'
      split <;> rfl
    rw [hworld]
    exact delete_follows dir key w _

/-- After requests a key holds at most what one of them stored under it. -/
theorem replies_entries (dir : Path) (ops : List Registry.Op) (h : Entries w.here dir held w.files) :
    let w' := ((Registry.directory dir).replies ops w).2
    w'.here = w.here ∧ ∃ held', Entries w.here dir held' w'.files ∧ ∀ key text, held' key = some text →
      held key = some text ∨ ∃ op ∈ ops, Stores σ dir op key text := by
  induction ops generalizing w held with
  | nil => exact ⟨rfl, held, h, fun _ _ => .inl⟩
  | cons op ops ih =>
    obtain ⟨hhere, hfollows⟩ := perform_follows dir op w
    obtain ⟨held₁, h₁, hgiven₁⟩ := hfollows held h
    rw [← hhere] at h₁
    obtain ⟨hhere₂, held₂, h₂, hgiven₂⟩ := ih h₁
    refine ⟨hhere₂.trans hhere, held₂, hhere ▸ h₂, fun key text htext => ?_⟩
    rcases hgiven₂ key text htext with hheld | ⟨op', hop', hstored⟩
    · refine (hgiven₁ key text hheld).imp_right fun hstored => ?_
      exact ⟨op, List.mem_cons_self, hstored⟩
    · exact .inr ⟨op', List.mem_cons_of_mem _ hop', hstored⟩

/-- What a later look at a key finds, if the host is in some state then. -/
def look (dir : Path) (key : String) (w : World σ) (s : σ) : Except Fault (Option Json) :=
  (get dir key { w with host := s }).1

theorem look_told (hkey : Kept w.here dir key) (h : Entries w.here dir held w.files) (s : σ) :
    look dir key w s = told dir key s (held key) := (get_told (w := { w with host := s }) hkey h).1

theorem look_invalid (hkey : isKey key = false) (w : World σ) (s : σ) :
    look dir key w s = .error (.registry (.invalidKey key)) := by rw [look, get_invalid hkey]

/-- A put after a history, wherever it stopped, has replaced one text by what has landed of another, or none at all. -/
structure Replaces (dir : Path) (history : List Registry.Op) (key : String) (value : Json) (w : World σ)
    (result : Except Fault Unit) (w' : World σ) : Prop where
  /-- What is no key is refused before anything is done. -/
  refuses : isKey key = false → result = .error (.registry (.invalidKey key)) ∧ w' = w
  /-- First directories are made, and then the first of the steps are taken that write the document; a put succeeds only
  after the last of them. -/
  steps : ∃ made n, w'.since w = made ++ ((writes dir key value).take n).map .file ∧
    (∀ e ∈ made, ∃ p ∈ dir.lineage, e = .file (.makeDir p)) ∧ (result = .ok () → n = 4)
  /-- The two files that these steps name stand in the directory itself. -/
  names : isKey key = true → FileTree.PlainName (key ++ ".tmp") ∧ FileTree.PlainName (key ++ ".json")
  spares : Spares w.here dir key w.files w'.files
  /-- A later look at a key finds what it would have found before, unless the put succeeded and the key is that of the
  document. -/
  before : ∀ key', (isKey key' = true → Kept w.here dir key') → (key' = key → result ≠ .ok ()) →
    ∀ s, look dir key' w' s = look dir key' w s
  /-- In that case it finds what is read from what has landed of the text of the document that was put. -/
  after : Kept w.here dir key → result = .ok () →
    ∃ text, Disk.Lands (opened dir key w).host (temporary dir key) value.pretty text ∧
      ∀ s, look dir key w' s = told dir key s (some text)
  /-- That is all of it unless the host has disturbed the filling of the temporary file. -/
  whole : Kept w.here dir key → result = .ok () →
    (Host.disturb (.fill (temporary dir key) value.pretty) (opened dir key w).host).1 = none →
      ∀ s, look dir key w' s = told dir key s (some value.pretty)
  /-- In no case it finds anything but what has landed of a document stored under the key that is looked at. -/
  own : ∀ key', Kept w.here dir key' → ∃ held : Option String,
    (∀ text, held = some text → ∃ op ∈ history ++ [.put key value], Stores σ dir op key' text) ∧
      ∀ s, look dir key' w' s = told dir key' s held
  /-- Only on a way that leads up can the file of a key be a directory that is passed. -/
  kept : ".." ∉ dir.names → ∀ key', isKey key' = true → Kept w.here dir key'

/-- A put is confined to its two files and changes a document in its last step only, whatever requests were made before
and wherever the host, any host, has disturbed them or stops the put: a process that dies is one all of whose further
steps are disturbed.  What it puts in the place of the document is what has landed of the text of the new one. -/
theorem put_replaces (σ : Type) [Host σ] (dir : Path) (start : World σ)
    (hnew : ∀ key, isKey key = true → start.files.node? (entryAt (target start.here dir) key) = none)
    (history : List Registry.Op) (key : String) (value : Json) :
    let w := ((Registry.directory dir).replies history start).2
    Replaces dir history key value w (put dir key value w).1 (put dir key value w).2 := by
  intro w
  obtain ⟨hhere, held, hentries, hgiven⟩ := replies_entries dir history (Entries.none hnew)
  rw [← hhere] at hentries
  have hgiven : ∀ key' text, held key' = some text → ∃ op ∈ history ++ [.put key value], Stores σ dir op key' text := by
    intro key' text htext
    obtain ⟨op, hop, hstored⟩ := (hgiven key' text htext).resolve_left (nomatch ·)
    exact ⟨op, List.mem_append_left _ hop, hstored⟩
  cases hkey : isKey key with
  | false =>
    rw [put_invalid hkey]
    exact {
      refuses := fun _ => ⟨rfl, rfl⟩
      steps := ⟨[], 0, World.since_eq rfl, by simp, (nomatch ·)⟩
      names := fun h => absurd h (by simp [hkey])
      spares := spares_of_node? fun _ _ _ => rfl
      before := fun _ _ _ _ => rfl
      after := fun h _ => absurd h.1 (by simp [hkey])
      whole := fun h _ _ => absurd h.1 (by simp [hkey])
      own := fun key' hkey' => ⟨held key', hgiven key', look_told hkey' hentries⟩
      kept := fun hup _ => kept_of_isKey hup }
  | true =>
    obtain ⟨t, hleads, hsettles⟩ := put_ends value hkey hentries
    have hlater {held' : String → Option String} (h : Entries w.here dir held' (put dir key value w).2.files)
        {key' : String} (hkey' : Kept w.here dir key') (s : σ) :
        look dir key' (put dir key value w).2 s = told dir key' s (held' key') := by
      rw [← hleads.here] at h hkey'
      exact look_told hkey' h s
    have hafter (hkept : Kept w.here dir key) (hok : (put dir key value w).1 = .ok ()) :
        ∃ text, Disk.Lands (opened dir key w).host (temporary dir key) value.pretty text ∧
          ∀ s, look dir key (put dir key value w).2 s = told dir key s (some text) := by
      obtain ⟨text, hlands, hdone⟩ := hsettles.done hok
      refine ⟨text, hlands, fun s => ?_⟩
      rw [hlater hdone hkept, Function.update_self]
    refine {
      refuses := fun h => absurd h (by simp [hkey])
      steps := hleads.since_eq ▸ hsettles.steps
      names := fun _ => ⟨plainName_temporary hkey, plainName_entry hkey⟩
      spares := hsettles.spares
      before := fun key' hkey' hother s => ?_
      after := hafter
      whole := fun hkept hok hcalm => ?_
      own := fun key' hkey' => ?_
      kept := fun hup _ => kept_of_isKey hup }
    · cases hvalid : isKey key' with
      | false => rw [look_invalid hvalid, look_invalid hvalid]
      | true =>
        rw [look_told (hkey' hvalid) hentries]
        by_cases hok : (put dir key value w).1 = .ok ()
        · have hne : key' ≠ key := fun heq => hother heq hok
          obtain ⟨text, -, hdone⟩ := hsettles.done hok
          rw [hlater hdone (hkey' hvalid), Function.update_of_ne hne]
        · exact hlater (hsettles.failed hok) (hkey' hvalid) s
    · obtain ⟨text, hlands, hlook⟩ := hafter hkept hok
      obtain rfl := hlands.eq hcalm
      exact hlook
    · by_cases hok : (put dir key value w).1 = .ok ()
      · obtain ⟨text, hlands, hdone⟩ := hsettles.done hok
        refine ⟨_, fun text' htext' => ?_, hlater hdone hkey'⟩
        rcases held_of_update_some htext' with ⟨heq, rfl⟩ | hbefore
        · exact ⟨_, List.mem_append_right _ (List.mem_singleton.mpr rfl), heq.symm, value, _, rfl, heq ▸ hlands⟩
        · exact hgiven key' text' hbefore
      · exact ⟨_, hgiven key', hlater (hsettles.failed hok) hkey'⟩

/-! ### Hosts that disturb -/

/-- A host that disturbs some of the steps on files, which are numbered; of a text that is written then two characters
are kept. -/
structure Faltering where
  taken : Nat
  disturbed : Nat → Bool

instance : Host Faltering where
  run here files c h := ((Host.run here files c (Obliging.mk (Obliging.single "mysql"))).1, h)
  answer c h := ((Host.answer c (Obliging.mk (Obliging.single "mysql"))).1, h)
  exchange _ h := (none, h)
  disturb _ h := (if h.disturbed h.taken then some ⟨.other "disturbed", 2⟩ else none, { h with taken := h.taken + 1 })
  refuse _ h := (none, h)

/-- A number was put with the steps up to the fifth of a host. -/
def Faltering.begun (disturbed : Nat → Bool) : World Faltering :=
  ((Registry.directory "registry").replies [.put "plan" (.num (.int 1))]
    (.start ⟨0, disturbed⟩ "" FileTree.empty)).2

/-- What is found of the document when no further step is disturbed. -/
def Faltering.finds (w : World Faltering) : Except Fault (Option String) :=
  (look "registry" "plan" w ⟨0, fun _ => false⟩).map (·.map Json.pretty)

/-- A process dies while it fills the temporary file with a second document, and the one that it put first is found.  But
where this step alone is disturbed nothing is told of it, and the two characters that were kept take the place of the
document. -/
theorem put_replaces_faltering :
    (Replaces "registry" [.put "plan" (.num (.int 1))] "plan" (.str "second") (Faltering.begun (6 ≤ ·))
        (put "registry" "plan" (.str "second") (Faltering.begun (6 ≤ ·))).1
        (put "registry" "plan" (.str "second") (Faltering.begun (6 ≤ ·))).2 ∧
      Faltering.finds (put "registry" "plan" (.str "second") (Faltering.begun (6 ≤ ·))).2 = .ok (some "1")) ∧
    Replaces "registry" [.put "plan" (.num (.int 1))] "plan" (.str "second") (Faltering.begun (· = 6))
        (put "registry" "plan" (.str "second") (Faltering.begun (· = 6))).1
        (put "registry" "plan" (.str "second") (Faltering.begun (· = 6))).2 ∧
      (put "registry" "plan" (.str "second") (Faltering.begun (· = 6))).1 = .ok () ∧
      ∃ message, Faltering.finds (put "registry" "plan" (.str "second") (Faltering.begun (· = 6))).2 =
        .error (.registry (.corrupted "plan" message)) := by
  have hreplaces (disturbed : Nat → Bool) : Replaces "registry" [.put "plan" (.num (.int 1))] "plan" (.str "second")
      (Faltering.begun disturbed) (put "registry" "plan" (.str "second") (Faltering.begun disturbed)).1
      (put "registry" "plan" (.str "second") (Faltering.begun disturbed)).2 :=
    put_replaces Faltering "registry" (.start ⟨0, disturbed⟩ "" FileTree.empty) (fun _ _ => if_neg (below_ne_root _ _))
      [.put "plan" (.num (.int 1))] "plan" (.str "second")
  refine ⟨⟨hreplaces _, ?_⟩, hreplaces _, ?_, ?_⟩
  · decide +kernel
  · decide +kernel
  · exact ⟨"EOF while parsing a string", by decide +kernel⟩

/-- A number of the store is not always read as the number that was put: its text is read as the one beside it. -/
theorem put_rounded : ¬ ∀ (dir : Path) (start : World Obliging),
    (∀ key, isKey key = true → start.files.node? (entryAt (target start.here dir) key) = none) →
    ∀ (key : String) (value : Json), (put dir key value start).1 = .ok () →
      ∀ s, look dir key (put dir key value start).2 s = .ok (some value) := by
  intro h
  let value : Json := .num (.float ⟨false, 5577631354851966, 93⟩)
  let start : World Obliging := .start ⟨Obliging.single "mysql"⟩ "" FileTree.empty
  have hput : (put "registry" "plan" value start).1 = .ok () := by decide +kernel
  have hlook := h "registry" start (fun _ _ => if_neg (below_ne_root _ _)) "plan" value hput start.host
  have hread : (look "registry" "plan" (put "registry" "plan" value start).2 start.host).toOption.map
      (·.map Json.pretty) = some (some "5.523818542835848e+43") := by decide +kernel
  have hvalue : value.pretty = "5.523818542835849e+43" := by decide +kernel
  rw [hlook] at hread
  have htext : value.pretty = "5.523818542835848e+43" := by simpa [Except.toOption] using hread
  rw [hvalue] at htext
  exact absurd htext (by decide)

end History

end Directory

end Rollout
