import Rollout.Proofs.Cli.Load
import Rollout.Proofs.Made
import Rollout.Proofs.Provisioner
import Rollout.Proofs.Time.Written

/-!
# Rollout.Proofs.Provisioner.Log — where the program logs

The path of the log is the path of the plan with a name behind it, and the program that is given this path runs in the
directory of the plan.  So the path of the plan is walked twice: to the directory, and once more from there to the log.
The second walk stays in the directory if the path is absolute; a relative path that never leads up does so only where
it leads nowhere at all.

* `FileTree.locate_join_eq_ok`: what a name behind a path leads to.
* `FileTree.logsIn_iff`: when the log is in the directory in which the program runs.
* `FileTree.foldl_next_eq_self`: a way that never leads up does not come back.
* `Provisioner.Use`, `Provisioner.Use.tells`: what every operation tells the program.
* `Provisioner.Logs`, `Provisioner.logs`: where the log is, for every operation and every plan that was loaded.
-/

namespace Rollout

/-! ## Names of logs -/

namespace Instant

theorem mem_yearText {y : Int} {c : Char} (h : c ∈ (yearText y).toList) : c.isDigit = true ∨ c = '-' ∨ c = '+' := by
  unfold yearText at h
  split at h
  · exact .inl (isDigit_of_mem_padded _ _ c h)
  · split at h
    all_goals
      rw [String.toList_append, List.mem_append] at h
      rcases h with h | h
      · simp at h
        simp [h]
      · exact .inl (isDigit_of_mem_padded _ _ c h)

theorem mem_stamp {t : Instant} {c : Char} (h : c ∈ t.stamp.toList) : c.isDigit = true ∨ c = '-' ∨ c = '+' := by
  unfold stamp at h
  simp only [String.toList_append, List.mem_append] at h
  rcases h with ((((h | h) | h) | h) | h) | h
  · exact mem_yearText h
  all_goals exact .inl (isDigit_of_mem_padded _ _ c h)

end Instant

/-! ## Directories -/

namespace FileTree

variable {t : FileTree} {here place log q name : String} {cs : List String} {dir : Path}

/-- A place is directly inside a directory. -/
def Inside (directory place : String) : Prop := ∃ name, PlainName name ∧ place = directory ++ "/" ++ name

/-- The system takes a name, and a path that ends in it. -/
def Takes (dir : Path) (name : String) : Prop :=
  Text.byteLength name ≤ maxName ∧ Text.byteLength (dir.join name) ≤ maxPath

theorem above_of_inside (h : Inside q place) : above place = q := by
  obtain ⟨name, hname, rfl⟩ := h
  exact above_append q hname.no_slash

/-- A path with a name behind it leads to the place of the name in the directory to which the path leads. -/
theorem locate_join_eq_ok (hname : PlainName name) : t.locate here (dir.join name) = .ok log ↔
    Takes dir name ∧ ∃ q, t.Seen here dir q ∧ log = q ++ "/" ++ name := by
  constructor
  · intro h
    obtain ⟨hseen, hlog, hshort, hlong⟩ := seen_of_locate_join hname h
    exact ⟨⟨hshort, hlong⟩, _, hseen, hlog⟩
  · rintro ⟨⟨hshort, hpath⟩, q, hseen, rfl⟩
    exact hseen.locate_join hname hshort hpath

/-- A name behind the path of a directory, seen from the directory, is directly in there if and only if the path leads
from the directory to itself. -/
theorem inside_iff (hname : PlainName name) (hplace : t.locate here dir = .ok place)
    (hdirectory : t.isDirectory place = true) : (∃ log, t.locate place (dir.join name) = .ok log ∧ Inside place log) ↔
      Takes dir name ∧ t.locate place dir = .ok place := by
  constructor
  · rintro ⟨log, hlog, hinside⟩
    obtain ⟨htakes, q, hseen, rfl⟩ := (locate_join_eq_ok hname).mp hlog
    obtain rfl : q = place := by
      rw [← above_of_inside hinside, above_append q hname.no_slash]
    obtain ⟨-, ⟨rfl, -⟩ | hlocate⟩ := hseen
    · exact absurd rfl (locate_eq_ok.mp hplace).2.1
    · exact ⟨htakes, hlocate⟩
  · rintro ⟨htakes, hlocate⟩
    have hlog := (locate_join_eq_ok hname).mpr ⟨htakes, place, ⟨hdirectory, .inr hlocate⟩, rfl⟩
    exact ⟨_, hlog, name, hname, rfl⟩

theorem length_foldl_next (q : String) (hup : ".." ∉ cs) : q.length + cs.length ≤ (cs.foldl next q).length := by
  induction cs generalizing q with
  | nil => exact Nat.le_refl _
  | cons c cs ih =>
    obtain ⟨hc, hcs⟩ := List.ne_and_not_mem_of_not_mem_cons hup
    have hnext : next q c = q ++ "/" ++ c := if_neg (Ne.symm hc)
    have hrest := ih (next q c) hcs
    have hslash : "/".length = 1 := rfl
    rw [hnext, String.length_append, String.length_append, hslash] at hrest
    rw [List.foldl_cons, List.length_cons, hnext]
    omega

/-- A way that never leads up and ends where it began has no steps. -/
theorem foldl_next_eq_self (hup : ".." ∉ cs) (h : cs.foldl next q = q) : cs = [] := by
  have hlength := length_foldl_next q hup
  rw [h] at hlength
  exact List.eq_nil_of_length_eq_zero (by omega)

/-- A relative path that never leads up leads from a directory to itself only if this is the current directory. -/
theorem locate_self_iff (habsolute : dir.isAbsolute = false) (hup : ".." ∉ dir.names)
    (hplace : t.locate here dir = .ok place) : t.locate place dir = .ok place ↔ place = here := by
  have htarget (here : String) (h : t.locate here dir = .ok place) : place = dir.names.foldl next here := by
    have horigin : origin here dir = here := if_neg (by simp [habsolute])
    exact (eq_target h).trans (by rw [target, horigin])
  constructor
  · intro hself
    rw [htarget here hplace, foldl_next_eq_self hup (htarget place hself).symm]
    rfl
  · rintro rfl
    exact hplace

end FileTree

/-- The log of a program that runs in a directory is directly in there, as the program sees it. -/
def Command.LogsIn (c : Command) (files : FileTree) (place : String) : Prop :=
  ∃ path log, c.env.get? "TF_LOG_PATH" = some path ∧ files.locate place path = .ok log ∧ FileTree.Inside place log

theorem Command.logsIn_of_env {c : Command} {path : Path} {files : FileTree} (h : c.env.get? "TF_LOG_PATH" = some path)
    (place : String) : c.LogsIn files place ↔ ∃ log, files.locate place path = .ok log ∧ FileTree.Inside place log := by
  constructor
  · rintro ⟨path', log, hpath, hlog⟩
    obtain rfl : path = path' := Option.some.inj (h.symm.trans hpath)
    exact ⟨log, hlog⟩
  · rintro ⟨log, hlog⟩
    exact ⟨path, log, h, hlog⟩

/-! ## Operations -/

namespace Provisioner

/-- What can be asked of the provisioner of a plan. -/
inductive Use
  | init
  | apply (vars : Variables) (extra : List String)
  | destroy
  | outputs
  | pullState
  | hasResources
  | stateList
  | stateRemove (address : String)
  | sync

/-- The name under which the program logs. -/
def Use.operation : Use → String
  | .init => "init"
  | .apply .. => "apply"
  | .destroy => "destroy"
  | .outputs => "output"
  | .pullState | .hasResources => "state"
  | .stateList => "state-list"
  | .stateRemove _ => "state-rm"
  | .sync => "sync"

/-- The name of the log of an operation. -/
def logName (operation : String) (date : Instant) : String := "terraform-" ++ operation ++ "-" ++ date.stamp ++ ".log"

theorem plainName_logName (use : Use) (date : Instant) : FileTree.PlainName (logName use.operation date) := by
  have hoperation : '/' ∉ use.operation.toList ∧ Char.ofNat 0 ∉ use.operation.toList := by
    have hall : ∀ operation ∈ ["init", "apply", "destroy", "output", "state", "state-list", "state-rm", "sync"],
        '/' ∉ operation.toList ∧ Char.ofNat 0 ∉ operation.toList := by decide
    refine hall _ ?_
    cases use
    all_goals simp [Use.operation]
  have hstamp : '/' ∉ date.stamp.toList ∧ Char.ofNat 0 ∉ date.stamp.toList := by
    constructor
    all_goals
      intro hmem
      rcases Instant.mem_stamp hmem with h | h | h
      all_goals exact absurd h (by decide)
  have hlong : 1 < (logName use.operation date).length ∧ (logName use.operation date).toList.head? = some 't' := by
    have hten : "terraform-".length = 10 := rfl
    unfold logName
    simp only [String.length_append, String.toList_append, hten]
    exact ⟨by omega, rfl⟩
  have hmem (c : Char) : c ∈ (logName use.operation date).toList ↔ c ∈ "terraform-".toList ∨ c ∈ use.operation.toList ∨
      c ∈ "-".toList ∨ c ∈ date.stamp.toList ∨ c ∈ ".log".toList := by
    unfold logName
    simp only [String.toList_append, List.mem_append, or_assoc]
  refine ⟨fun h => ?_, ?_, ?_, fun h => ?_, fun h => ?_⟩
  · rw [h] at hlong
    exact absurd hlong.1 (by decide)
  · rw [hmem]
    simp [hoperation.1, hstamp.1]
  · rw [hmem]
    simp [hoperation.2, hstamp.2]
  · rw [h] at hlong
    exact absurd hlong.2 (by decide)
  · rw [h] at hlong
    exact absurd hlong.2 (by decide)

/-- If the thing done was to run a program, then in the directory of the plan, and with a log behind its path. -/
def Tells (p : Provisioner) (operation : String) (e : Event) : Prop := ∀ c files, e = .command c files →
  c.directory = some p.path ∧ ∃ date, c.env.get? "TF_LOG_PATH" = some (p.path.join (logName operation date))

theorem environment_log (p : Provisioner) (operation : String) (date : Instant) (env : Table String) :
    (p.environment operation date env).get? "TF_LOG_PATH" = some (p.path.join (logName operation date)) := by
  unfold environment
  dsimp only
  split
  · exact Table.get?_insert_self _ _ _
  · rw [Table.get?_insert_of_ne _ (by decide)]
    exact Table.get?_insert_self _ _ _

section Operations

variable {σ : Type} [Host σ] (p : Provisioner)

theorem tells_file (operation : String) (a : FileAction) : p.Tells operation (.file a) := nofun

theorem invoke_tells (operation : String) (args : List String) (timeout : Span) :
    Within (p.Tells operation) (p.invoke operation args timeout : Act σ CommandOutput) := by
  have hlog : (Act.asks fun w : World σ => p.environment operation w.localDate w.env).Returns fun env =>
      ∃ date, env.get? "TF_LOG_PATH" = some (p.path.join (logName operation date)) := by
    rintro w env henv
    cases henv
    exact ⟨w.localDate, p.environment_log operation w.localDate w.env⟩
  unfold invoke
  refine (within_asks fun _ _ _ _ => rfl).bind_of hlog fun env henv => ?_
  refine (within_run fun files => ?_).bind fun reply => within_ofExcept _
  intro c files' hevent
  cases hevent
  exact ⟨rfl, henv⟩

/-- The world after an operation. -/
def Use.after (w : World σ) : Use → World σ
  | .init => (p.init w).2
  | .apply vars extra => (p.apply vars extra w).2
  | .destroy => (p.destroy w).2
  | .outputs => (p.outputs w).2
  | .pullState => (p.pullState w).2
  | .hasResources => (p.hasResources w).2
  | .stateList => (p.stateList w).2
  | .stateRemove address => (p.stateRemove address w).2
  | .sync => (p.sync w).2

theorem pullState_tells : Within (p.Tells "state") (p.pullState : Act σ Json) := by
  unfold pullState
  refine (p.invoke_tells _ _ _).bind fun output => ?_
  split
  · exact within_pure _
  · split
    · exact within_pure _
    · exact within_fail _

/-- Every operation runs the program in the directory of the plan and tells it to log there, under its own name. -/
theorem Use.tells (use : Use) (w : World σ) : ∀ e ∈ (use.after p w).since w, p.Tells use.operation e := by
  have hinvoke {α : Type} (operation : String) (args : List String) (timeout : Span) (f : CommandOutput → α) :
      Within (p.Tells operation) (do
        let output ← p.invoke operation args timeout
        return f output : Act σ α) := (p.invoke_tells operation args timeout).bind fun output => within_pure _
  refine World.Becomes.since ?_
  cases use with
  | init =>
    have hbackend : Within (p.Tells "init") (p.writeBackend : Act σ Bool) := by
      unfold writeBackend
      split
      · exact writeIfChanged_within (p.tells_file "init") _ _
      · exact within_pure _
    exact (hbackend.bind fun reconfigure => hinvoke "init" _ _ fun _ => ()).becomes w
  | apply vars extra =>
    have hvariables : Within (p.Tells "apply") (p.writeVariables vars : Act σ Unit) :=
      orIo_within (Disk.write_within (p.tells_file "apply") _ _)
    exact (hvariables.bind fun _ => hinvoke "apply" _ _ fun _ => ()).becomes w
  | destroy => exact (hinvoke "destroy" _ _ fun _ => ()).becomes w
  | outputs =>
    have houtputs : Within (p.Tells "output") (p.outputs : Act σ (Table Json)) := by
      unfold Provisioner.outputs
      refine (p.invoke_tells _ _ _).bind fun output => ?_
      split
      · exact within_pure _
      · exact within_fail _
    exact houtputs.becomes w
  | pullState => exact p.pullState_tells.becomes w
  | hasResources => exact (p.pullState_tells.bind fun _ => within_pure _).becomes w
  | stateList => exact (hinvoke "state-list" _ _ fun output => shownLines output.stdout).becomes w
  | stateRemove address => exact (hinvoke "state-rm" _ _ fun _ => ()).becomes w
  | sync => exact (hinvoke "sync" _ _ fun _ => ()).becomes w

end Operations

/-! ## Plans that were loaded -/

/-- The path of a plan of a loaded configuration is absolute where one of the paths is of which it is made. -/
theorem isAbsolute_of_load {σ : Type} [Host σ] {path : Path} {c : Config} {w w' : World σ}
    (h : Config.load path.parent? path w = (.ok c, w')) :
    ∃ text told, w.files.read w.here path = .ok text ∧ Config.ofText text (some path) = .ok told ∧
      ∀ plan endpoint, (ofConfig c plan endpoint).path.isAbsolute =
        (path.isAbsolute || told.provisioner.plansDir.isAbsolute || plan.directory.isAbsolute) := by
  obtain ⟨text, told, hread, htold, rfl, -⟩ := Config.load_eq h
  refine ⟨text, told, hread, htold, fun plan endpoint => ?_⟩
  obtain ⟨base, hbase⟩ := FileTree.exists_parent?_of_read hread
  have hplans : ((told.place path.parent?).adjust w'.env).provisioner.plansDir =
      base.join told.provisioner.plansDir := by
    rw [Config.adjust_plansDir, hbase]
    rfl
  unfold ofConfig Config.planDir
  rw [hplans, Path.isAbsolute_join, Path.isAbsolute_join, Path.isAbsolute_of_parent? hbase]

/-- Where the provisioner of a plan logs. -/
structure Logs (σ : Type) [Host σ] : Prop where
  /-- Every program that an operation runs has a log, which is directly in the directory in which it runs, the one of
  the plan, if and only if the path of the plan leads from this directory to itself and the path of the log is one that
  the system takes. -/
  inside : ∀ (p : Provisioner) (use : Use) (w : World σ) c files, .command c files ∈ (use.after p w).since w →
    c.directory = some p.path ∧ ∃ name, FileTree.PlainName name ∧ c.env.get? "TF_LOG_PATH" = some (p.path.join name) ∧
      ∀ place, files.locate w.here p.path = .ok place → files.isDirectory place = true →
        (c.LogsIn files place ↔ FileTree.Takes p.path name ∧ files.locate place p.path = .ok place)
  /-- An absolute path leads from its directory to itself. -/
  absolute : ∀ (files : FileTree) (here place : String) (path : Path), path.isAbsolute = true →
    files.locate here path = .ok place → files.locate place path = .ok place
  /-- A relative path that never leads up does so only if its directory is the current one. -/
  relative : ∀ (files : FileTree) (here place : String) (path : Path), path.isAbsolute = false → ".." ∉ path.names →
    files.locate here path = .ok place → (files.locate place path = .ok place ↔ place = here)
  /-- The path of a plan is relative if the path of the configuration is, and both paths in it from which that of the
  plan is made. -/
  loaded : ∀ (path : Path) (c : Config) (w w' : World σ), Config.load path.parent? path w = (.ok c, w') →
    ∃ text told, w.files.read w.here path = .ok text ∧ Config.ofText text (some path) = .ok told ∧
      ∀ plan endpoint, (ofConfig c plan endpoint).path.isAbsolute =
        (path.isAbsolute || told.provisioner.plansDir.isAbsolute || plan.directory.isAbsolute)

/-- The logs of every operation on every plan. -/
theorem logs (σ : Type) [Host σ] : Logs σ := by
  refine ⟨fun p use w c files he => ?inside, fun files here place path habsolute h => ?absolute,
    fun files here place path => FileTree.locate_self_iff, fun path c w w' => isAbsolute_of_load⟩
  case inside =>
    obtain ⟨hdirectory, date, henv⟩ := use.tells p w _ he c files rfl
    have hname := plainName_logName use date
    exact ⟨hdirectory, _, hname, henv, fun place hplace hdir =>
      (Command.logsIn_of_env henv place).trans (FileTree.inside_iff hname hplace hdir)⟩
  case absolute => rw [FileTree.locate_of_isAbsolute habsolute place here, h]

/-- A directory with a configuration and with the directory of its only plan. -/
def work : World Obliging :=
  let text := "plans:\n- name: openstack-plan\n  directory: openstack\n  config_key: TerraformVarsOpenstack\n"
  let directories := ["/work", "/work/plans", "/work/plans/openstack"]
  let files := directories.foldl (fun t q => t.put q .directory) FileTree.empty
  World.start ⟨Obliging.single "mysql"⟩ "/work" (files.put "/work/converge.yaml" (.file text))

/-- The configuration, loaded under its bare name. -/
def loadedWork : Except Fault Config × World Obliging :=
  Config.load (Path.parent? "converge.yaml") "converge.yaml" work

theorem loadedWork_path : (loadedWork.1.toOption.map fun c => c.plans.map (ofConfig c · none)) =
    some [forPlan "openstack-plan" "plans/openstack"] := by
  decide +kernel

/-- The program runs once where the directory of a plan is made ready for it. -/
theorem init_since (plan : String) (path : Path) (w : World Obliging) : ∃ c,
    (Use.init.after (forPlan plan path) w).since w = [.command c w.files] := ⟨_, World.since_eq (t := [_]) rfl⟩

/-- The directory of the plan is `/work/plans/openstack`, and from there its relative path leads nowhere. -/
theorem log_elsewhere : ¬ ∀ (path : Path) (c : Config) (w w' : World Obliging),
    Config.load path.parent? path w = (.ok c, w') → ∀ plan ∈ c.plans, ∀ endpoint (use : Use) command files,
      let p := ofConfig c plan endpoint
      .command command files ∈ (use.after p w').since w' → ∀ place, files.locate w'.here p.path = .ok place →
        files.isDirectory place = true → command.LogsIn files place := by
  intro h
  have hpath := loadedWork_path
  rcases hload : loadedWork with ⟨_ | c, w'⟩
  · rw [hload] at hpath
    cases hpath
  · rw [hload] at hpath
    obtain ⟨plan, hplans, hplan⟩ := List.map_eq_singleton_iff.mp (Option.some.inj hpath)
    obtain ⟨-, -, -, -, -, hfiles, hhere⟩ := Config.load_eq hload
    obtain ⟨command, hsince⟩ := init_since "openstack-plan" "plans/openstack" w'
    have he : .command command w'.files ∈
        (Use.init.after (forPlan "openstack-plan" "plans/openstack") w').since w' := by
      rw [hsince]
      exact List.mem_singleton_self _
    have hplace : w'.files.locate w'.here "plans/openstack" = .ok "/work/plans/openstack" := by
      rw [hfiles, hhere]
      rfl
    have hdirectory : w'.files.isDirectory "/work/plans/openstack" = true := by
      rw [hfiles]
      rfl
    have hnowhere : w'.files.locate "/work/plans/openstack" "plans/openstack" = .error .notFound := by
      rw [hfiles]
      rfl
    obtain ⟨-, date, henv⟩ := Use.tells _ .init w' _ he command w'.files rfl
    have hinside := h "converge.yaml" c work w' hload plan (by simp [hplans]) none .init command w'.files (hplan ▸ he)
      "/work/plans/openstack" (hplan ▸ hplace) hdirectory
    obtain ⟨-, hself⟩ := (FileTree.inside_iff (plainName_logName .init date) hplace hdirectory).mp
      ((Command.logsIn_of_env henv _).mp hinside)
    cases hnowhere.symm.trans hself

end Provisioner

end Rollout
