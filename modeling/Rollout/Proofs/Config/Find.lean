import Rollout.Config.Load
import Rollout.Proofs.Lineage
import Rollout.Proofs.Trace

/-!
# Rollout.Proofs.Config.Find — where a configuration is found

A configuration is looked for in the directory where one starts and, going up, in those above it, and where none of them
has one it is the user's.  But to go up is to shorten the text of the path.  That leads through all directories above
only if the text begins at the root and never leads up itself.  From a relative path the search ends in the current
directory: from the path of the current directory it never leaves that directory.

* `FileTree.configIn?`: the configuration in a directory.
* `Config.FindsIn`: a search finds what it should in directories, the nearest first.
* `Config.lineage_rel`: what is found on the way up is what the directories on the way down hold, the last one first.
* `Config.find_upward`: the directories that are searched.
* `Config.find_current`: the directory above the current one is not.
-/

namespace Rollout

variable {t : FileTree} {here place : String} {p : Path}

/-- The configuration in a directory: the file of the preferred name, or else that of the other one. -/
def FileTree.configIn? (t : FileTree) (dir : String) : Option String :=
  (Config.fileNames.map fun name => dir ++ "/" ++ name).find? fun file => (t.node? file).isSome

namespace Config

open FileTree (Seen PlainName passed upward origin)

/-- The configuration of a user. -/
def userFile? (env : Table String) : Option Path := (userDir? env).map fun dir => (dir.join "converge").join usualName

/-- A search that starts at a path finds what it should among some directories: the configuration in the first of them
that has one; if none has one, that of the user; and if there is none either, nothing. -/
structure FindsIn {σ : Type} (w : World σ) (start : Path) (dirs : List String) : Prop where
  nearest : ∀ file, dirs.findSome? w.files.configIn? = some file →
    ∃ p, find start w = (.ok p, w) ∧ w.files.locate w.here p = .ok file
  user : dirs.findSome? w.files.configIn? = none → ∀ p, userFile? w.env = some p →
    w.files.contains w.here p = true → find start w = (.ok p, w)
  missing : dirs.findSome? w.files.configIn? = none →
    (∀ p, userFile? w.env = some p → w.files.contains w.here p = false) →
    find start w = (.error (.config (.fileNotFound (start.join usualName))), w)

/-! ## One directory -/

theorem plain_fileNames : ∀ name ∈ fileNames, PlainName name ∧ Text.byteLength name ≤ Text.byteLength usualName := by
  intro name hname
  rcases List.mem_cons.mp hname with rfl | hname
  · exact ⟨⟨by decide, by decide, by decide, by decide, by decide⟩, Nat.le_refl _⟩
  · obtain rfl := List.mem_singleton.mp hname
    exact ⟨⟨by decide, by decide, by decide, by decide, by decide⟩, by decide⟩

theorem locate_fileName (h : t.Seen here p place) (hfits : Text.byteLength (p.join usualName) ≤ FileTree.maxPath)
    {name : String} (hname : name ∈ fileNames) : t.locate here (p.join name) = .ok (place ++ "/" ++ name) := by
  obtain ⟨hplain, hbytes⟩ := plain_fileNames name hname
  obtain ⟨husual, -⟩ := plain_fileNames usualName List.mem_cons_self
  have hshort : Text.byteLength usualName ≤ FileTree.maxName := by decide
  refine h.locate_join hplain (Nat.le_trans hbytes hshort) (Nat.le_trans ?_ hfits)
  by_cases hempty : p = ""
  · rw [hempty, Path.empty_join, Path.empty_join]
    exact hbytes
  · rw [FileTree.join_eq hempty hplain, FileTree.join_eq hempty husual, Text.byteLength_append, Text.byteLength_append]
    exact Nat.add_le_add_left hbytes _

/-- A path that leads to the file that is meant. -/
abbrev LeadsTo (t : FileTree) (here : String) : Option Path → Option String → Prop :=
  Option.Rel fun p file => t.locate here p = .ok file

theorem find?_fileNames (h : t.Seen here p place) (hfits : Text.byteLength (p.join usualName) ≤ FileTree.maxPath) :
    LeadsTo t here ((fileNames.map p.join).find? (t.contains here ·)) (t.configIn? place) := by
  have hnames : ∀ names : List String, (∀ name ∈ names, t.locate here (p.join name) = .ok (place ++ "/" ++ name)) →
      LeadsTo t here ((names.map p.join).find? (t.contains here ·))
        ((names.map fun name => place ++ "/" ++ name).find? fun file => (t.node? file).isSome) := by
    intro names hnames
    induction names with
    | nil => exact .none
    | cons name names ih =>
      have hname := hnames name List.mem_cons_self
      have hcontains : t.contains here (p.join name) = (t.node? (place ++ "/" ++ name)).isSome := by
        unfold FileTree.contains
        rw [hname]
      rw [List.map_cons, List.map_cons, List.find?_cons, List.find?_cons, hcontains]
      cases (t.node? (place ++ "/" ++ name)).isSome with
      | true => exact .some hname
      | false => exact ih fun name' hname' => hnames name' (List.mem_cons_of_mem _ hname')
  exact hnames fileNames fun name hname => locate_fileName h hfits hname

/-! ## The way up -/

theorem LeadsTo.cons {ps : List Path} {dirs : List String} {dir : String} {f : Path → Option Path}
    {g : String → Option String} (hfirst : LeadsTo t here (f p) (g dir))
    (hrest : LeadsTo t here (ps.findSome? f) (dirs.findSome? g)) :
    LeadsTo t here ((p :: ps).findSome? f) ((dir :: dirs).findSome? g) := by
  rw [List.findSome?_cons, List.findSome?_cons]
  generalize f p = found at hfirst
  generalize g dir = file at hfirst
  cases hfirst with
  | some hleads => exact .some hleads
  | none => exact hrest

/-- To look into a directory twice is to look into it once. -/
theorem findSome?_twice (dir : String) (dirs : List String) (g : String → Option String) :
    (dir :: dir :: dirs).findSome? g = (dir :: dirs).findSome? g := by
  rw [List.findSome?_cons, List.findSome?_cons]
  cases g dir <;> rfl

/-- A path without a parent leads to where its way begins. -/
theorem lineage_rel_last (h : t.Seen here p place) (hfits : Text.byteLength (p.join usualName) ≤ FileTree.maxPath)
    (hparent : p.parent? = none) :
    LeadsTo t here ([p].findSome? fun dir => (fileNames.map dir.join).find? (t.contains here ·))
      ((passed (origin here p) p.names).findSome? t.configIn?) := by
  have hfirst := find?_fileNames h hfits
  have hplace := h.eq_foldl
  rw [Path.names_of_parent?_none hparent] at hplace ⊢
  rw [hplace] at hfirst
  exact LeadsTo.cons hfirst .none

/-- What is found on the way up from a directory is what the directories hold that were passed on the way down to it, the
last one first. -/
theorem lineage_rel (fuel : Nat) (hfuel : p.length ≤ fuel) (h : t.Seen here p place)
    (hfits : Text.byteLength (p.join usualName) ≤ FileTree.maxPath) :
    LeadsTo t here ((Path.lineage.go fuel p).findSome? fun dir => (fileNames.map dir.join).find? (t.contains here ·))
      ((passed (origin here p) p.names).findSome? t.configIn?) := by
  induction fuel generalizing p place with
  | zero =>
    have hempty : p = "" := by simpa using hfuel
    exact lineage_rel_last h hfits (by rw [hempty]; rfl)
  | succ fuel ih =>
    unfold Path.lineage.go
    cases hparent : p.parent? with
    | none => exact lineage_rel_last h hfits hparent
    | some q =>
      obtain ⟨place', hseen⟩ := h.parent hparent
      have husual := (plain_fileNames usualName List.mem_cons_self).1
      have hshorter := Path.length_of_parent? hparent
      have hfits' := Nat.le_trans (FileTree.byteLength_join_parent hparent husual) hfits
      have hfirst := find?_fileNames h hfits
      have hplace := h.eq_foldl
      have hrest := ih (by omega) hseen hfits'
      have horigin : origin here q = origin here p := by
        unfold origin
        rw [Path.isAbsolute_of_parent? hparent]
      rw [Path.names_of_parent? hparent, horigin] at hrest
      rcases List.eq_nil_or_concat p.names with hnil | ⟨names, name, hconcat⟩
      · -- The path says only where it begins, and so does its parent.
        rw [hnil] at hplace hrest ⊢
        rw [hplace] at hfirst
        have htwice := LeadsTo.cons hfirst hrest
        rwa [List.dropLast_nil, passed, List.foldl_nil, findSome?_twice] at htwice
      · rw [List.concat_eq_append] at hconcat
        rw [hconcat] at hplace hrest ⊢
        rw [List.dropLast_concat] at hrest
        rw [hplace] at hfirst
        rw [FileTree.passed_concat]
        exact LeadsTo.cons hfirst hrest

/-! ## The search -/

section Search

variable {σ : Type} {w : World σ} {start : Path} {dirs : List String}

theorem find_eq (start : Path) (w : World σ) : find start w =
    match (candidates start w.env).find? (w.files.contains w.here ·) with
    | some p => (.ok p, w)
    | none => (.error (.config (.fileNotFound (start.join usualName))), w) := by
  unfold find
  rw [Act.bind_apply]
  dsimp only [Act.asks]
  cases (candidates start w.env).find? (w.files.contains w.here ·) <;> rfl

/-- A search finds in some directories what it should if the paths above its start lead there. -/
theorem findsIn_of_leadsTo (h : LeadsTo w.files w.here
    (start.lineage.findSome? fun dir => (fileNames.map dir.join).find? (w.files.contains w.here ·))
    (dirs.findSome? w.files.configIn?)) : FindsIn w start dirs := by
  have hcandidates : (candidates start w.env).find? (w.files.contains w.here ·) =
      (start.lineage.findSome? fun dir => (fileNames.map dir.join).find? (w.files.contains w.here ·)).or
        ((userFile? w.env).toList.find? (w.files.contains w.here ·)) := by
    unfold candidates
    rw [List.find?_append, List.find?_flatMap]
    rfl
  constructor
  · intro file hfile
    rw [hfile] at h
    rw [find_eq, hcandidates]
    generalize (start.lineage.findSome? fun dir => (fileNames.map dir.join).find? (w.files.contains w.here ·)) = found at h
    cases h with
    | some hleads => exact ⟨_, rfl, hleads⟩
  all_goals
    intro hnone
    rw [hnone] at h
    rw [find_eq, hcandidates]
    generalize (start.lineage.findSome? fun dir => (fileNames.map dir.join).find? (w.files.contains w.here ·)) = found at h
    cases h
  · intro p hp hcontains
    rw [hp, Option.none_or, Option.toList_some, List.find?_cons, hcontains]
  · intro hmissing
    cases hp : userFile? w.env with
    | none => rfl
    | some p =>
      rw [Option.none_or, Option.toList_some, List.find?_cons, hmissing p hp]
      rfl

/-- A search that starts in a directory finds what it should among the directories that are passed on the way to it.
Where the path never leads up, those are the directory and all above it as far as the way begins: the root if the path is
absolute, and otherwise the current directory, so that those above the current directory must have no configuration. -/
theorem find_upward (w : World σ) {start : Path} {place : String} (hlocate : w.files.locate w.here start = .ok place)
    (hdirectory : w.files.isDirectory place = true)
    (hfits : Text.byteLength (start.join usualName) ≤ FileTree.maxPath) :
    FindsIn w start (passed (origin w.here start) start.names) ∧
      (".." ∉ start.names →
        upward place = passed (origin w.here start) start.names ++ (upward (origin w.here start)).tail ∧
        (start.isAbsolute = true ∨ (∀ dir ∈ (upward w.here).tail, w.files.configIn? dir = none) →
          FindsIn w start (upward place))) := by
  have hseen : w.files.Seen w.here start place := ⟨hdirectory, .inr hlocate⟩
  have hleads := lineage_rel start.length (Nat.le_refl _) hseen hfits
  refine ⟨findsIn_of_leadsTo hleads, fun hup => ?_⟩
  have hupward : upward place = passed (origin w.here start) start.names ++ (upward (origin w.here start)).tail := by
    rw [hseen.eq_foldl]
    exact FileTree.upward_foldl _ hup fun c hc => Path.not_slash_of_mem_names hc
  refine ⟨hupward, fun hnone => findsIn_of_leadsTo ?_⟩
  have htail : (upward (origin w.here start)).tail.findSome? w.files.configIn? = none := by
    rw [List.findSome?_eq_none_iff]
    unfold origin
    split
    · simp [upward, FileTree.upwardIn]
    · rename_i hrelative
      exact hnone.resolve_left hrelative
  rw [hupward, List.findSome?_append, htail, Option.or_none]
  exact hleads

end Search

/-! ## Directories that are not searched, and one that should not be -/

section Tree

/-- A directory with a configuration, one below it without, which is the current one, and one below that with another. -/
def nested : World Unit :=
  let dirs := ((FileTree.empty.put "/work" .directory).put "/work/a" .directory).put "/work/a/b" .directory
  World.start () "/work/a" ((dirs.put "/work/converge.yaml" (.file "")).put "/work/a/b/converge.yaml" (.file ""))

theorem find_upward_nested : nested.files.locate nested.here "/work/a" = .ok "/work/a" ∧
    nested.files.isDirectory "/work/a" = true ∧
    Text.byteLength (Path.join "/work/a" usualName) ≤ FileTree.maxPath ∧ ".." ∉ Path.names "/work/a" ∧
    ∃ p, find "/work/a" nested = (.ok p, nested) ∧ nested.files.locate nested.here p = .ok "/work/converge.yaml" := by
  have hlocate : nested.files.locate nested.here "/work/a" = .ok "/work/a" := by decide +kernel
  have hdirectory : nested.files.isDirectory "/work/a" = true := by decide +kernel
  have hfits : Text.byteLength (Path.join "/work/a" usualName) ≤ FileTree.maxPath := by decide +kernel
  have hup : ".." ∉ Path.names "/work/a" := by decide +kernel
  have hfound : (upward "/work/a").findSome? nested.files.configIn? = some "/work/converge.yaml" := by decide +kernel
  obtain ⟨-, habove⟩ := find_upward nested hlocate hdirectory hfits
  obtain ⟨-, hfinds⟩ := habove hup
  exact ⟨hlocate, hdirectory, hfits, hup, (hfinds (.inl (by decide))).nearest _ hfound⟩

/-- From the path of the current directory the configuration in the directory above it is not found, and from a path that
leads down and up again another one is, below the directory where the search starts. -/
theorem find_current : (∀ start ∈ [".", "b/.."], nested.files.locate nested.here start = .ok "/work/a") ∧
    nested.files.isDirectory "/work/a" = true ∧
    ∀ start ∈ [".", "b/.."], ¬ FindsIn nested start (upward "/work/a") := by
  have hmissed : ∀ start ∈ [".", "b/.."], (find start nested).1.toOption.bind
      (fun p => (nested.files.locate nested.here p).toOption) ≠ some "/work/converge.yaml" := by decide +kernel
  have hfound : (upward "/work/a").findSome? nested.files.configIn? = some "/work/converge.yaml" := by decide +kernel
  refine ⟨by decide +kernel, by decide +kernel, fun start hstart hfinds => hmissed start hstart ?_⟩
  obtain ⟨p, hfind, hleads⟩ := hfinds.nearest _ hfound
  rw [hfind]
  exact congrArg Except.toOption hleads

end Tree

end Config

end Rollout
