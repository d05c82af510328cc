import Rollout.Cli.Run
import Rollout.Proofs.Obliging
import Rollout.Proofs.Path
import Rollout.Proofs.Within

/-!
# Rollout.Proofs.Cli.Load — where a deployment keeps its documents in files

A relative directory for documents is meant to be seen from the directory of the configuration.  It is joined to that
directory when the configuration is read, and joined once more when the registry is set up.  That makes no difference
where one of the two is absolute, or the configuration stands in the current directory under its bare name; elsewhere
the documents are kept in another place, and in another one for each name of the configuration.

* `Cli.loadConfig_eq_ok`, `Deployment.ofConfig_eq_ok`: what was read where a configuration and a deployment are loaded.
* `Cli.loadDeployment_directory`: the directory of the documents.
-/

namespace Rollout

variable {σ α β : Type}

variable [Host σ] {w w' : World σ}

/-! ## Reading -/

namespace Config

theorem source_within (path : Path) : Within Event.Reads (source path : Act σ String) := by
  unfold source
  refine (Disk.contains_within path).bind fun present => ?_
  split
  · refine (Disk.read_within ⟨path, rfl⟩).bind fun r => ?_
    split
    · exact within_pure _
    · exact within_fail _
  · exact within_fail _

theorem source_eq_ok {path : Path} {text : String} (h : source path w = (.ok text, w')) :
    w.files.read w.here path = .ok text ∧ w.Stays w' := by
  unfold source at h
  obtain ⟨present, w₁, hcontains, hrest⟩ := Act.bind_eq_ok h
  obtain rfl : w = w₁ := congrArg Prod.snd hcontains
  cases present with
  | false => cases hrest
  | true =>
    rw [if_pos rfl] at hrest
    obtain ⟨r, w₂, hread, hrest⟩ := Act.bind_eq_ok hrest
    cases r with
    | error e => cases hrest
    | ok text' =>
      cases hrest
      exact Disk.read_eq_ok hread

theorem loadEnvFile_stays (base : Option Path) (w : World σ) : w.Stays (loadEnvFile base w).2 := by
  unfold loadEnvFile
  rw [Act.bind_apply]
  have hcontains : (Disk.contains (envFile base) : Act σ Bool) w = (.ok (w.files.contains w.here (envFile base)), w) := rfl
  rw [hcontains]
  dsimp only
  split
  · have hread := ((Disk.read_within (σ := σ) (E := Event.Reads) ⟨envFile base, rfl⟩).becomes w).stays
    rw [Act.bind_apply]
    generalize (Disk.read (envFile base) : Act σ _) w = y at hread
    obtain ⟨_ | _ | text, w₁⟩ := y
    · exact hread
    · exact hread
    · exact ⟨hread.files, hread.here⟩
  · exact ⟨rfl, rfl⟩

/-- What takes precedence over a configuration does not concern the directory of the documents. -/
theorem adjust_path (env : Table String) (c : Config) : (c.adjust env).registry.path = c.registry.path := by
  unfold adjust
  dsimp only
  split <;> split <;> split <;> rfl

/-- Nor does it concern the directory of the plans. -/
theorem adjust_plansDir (env : Table String) (c : Config) :
    (c.adjust env).provisioner.plansDir = c.provisioner.plansDir := by
  unfold adjust
  dsimp only
  split <;> split <;> split <;> rfl

/-- A configuration that is loaded is the text of its file, with its directories seen from the base, but for what takes
precedence. -/
theorem load_eq {base : Option Path} {path : Path} {c : Config} (h : load base path w = (.ok c, w')) :
    ∃ text told, w.files.read w.here path = .ok text ∧ ofText text (some path) = .ok told ∧
      c = (told.place base).adjust w'.env ∧ w.Stays w' := by
  unfold load ofFile at h
  obtain ⟨placed, w₁, hfile, hadjust⟩ := Act.bind_eq_ok h
  obtain ⟨text, w₂, hsource, htold⟩ := Act.bind_eq_ok hfile
  obtain ⟨told, w₃, htext, hplaced⟩ := Act.bind_eq_ok htold
  obtain ⟨hread, hstays⟩ := source_eq_ok hsource
  have hparsed : ofText text (some path) = .ok told := congrArg Prod.fst htext
  obtain rfl : w₂ = w₃ := congrArg Prod.snd htext
  cases hplaced
  cases hadjust
  exact ⟨text, told, hread, hparsed, rfl, hstays⟩

/-- A configuration that is loaded keeps its documents where the text of its file says, seen from the base. -/
theorem load_eq_ok {base : Option Path} {path : Path} {c : Config} (h : load base path w = (.ok c, w')) :
    ∃ text told, w.files.read w.here path = .ok text ∧ ofText text (some path) = .ok told ∧
      c.registry.path = told.registry.path.map (resolve base) ∧ w.Stays w' := by
  obtain ⟨text, told, hread, hparsed, rfl, hstays⟩ := load_eq h
  exact ⟨text, told, hread, hparsed, adjust_path _ _, hstays⟩

end Config

theorem Deployment.ofConfig_eq_ok {base : Option Path} {c : Config} {d : Deployment}
    (h : Deployment.ofConfig base c w = (.ok d, w')) :
    d.config = c ∧ Registry.ofConfig base w.here c.registry = .ok d.registry := by
  have hmanifest : Within Event.Reads (Manifest.load base c : Act σ Manifest) := by
    unfold Manifest.load
    split
    · exact within_pure _
    · exact (Config.source_within _).bind fun _ => within_ofExcept _
  unfold Deployment.ofConfig at h
  obtain ⟨manifest, w₁, hload, hrest⟩ := Act.bind_eq_ok h
  have hstays := (hmanifest.becomes w).stays
  rw [hload] at hstays
  obtain ⟨here, w₂, hhere, hrest⟩ := Act.bind_eq_ok hrest
  cases hhere
  obtain ⟨registry, w₃, hregistry, hrest⟩ := Act.bind_eq_ok hrest
  cases hrest
  have hnamed : Registry.ofConfig base w₁.here c.registry = .ok registry := congrArg Prod.fst hregistry
  rw [hstays.here] at hnamed
  exact ⟨rfl, hnamed⟩

/-! ## The directory of the documents -/

namespace Cli

/-- A deployment that is loaded has the configuration of its file, with directories seen from the directory of the
file. -/
theorem loadDeployment_eq_ok {path : Path} {d : Deployment} (h : loadDeployment (some path) w = (.ok d, w')) :
    ∃ base text told, path.parent? = some base ∧ w.files.read w.here path = .ok text ∧
      Config.ofText text (some path) = .ok told ∧
      d.config.registry.path = told.registry.path.map base.join ∧
      Registry.ofConfig (some base) w.here d.config.registry = .ok d.registry := by
  unfold loadDeployment loadConfig at h
  obtain ⟨loaded, w₁, hloaded, hrest⟩ := Act.bind_eq_ok h
  obtain ⟨_, w₂, haccepted, hset⟩ := Act.bind_eq_ok hrest
  obtain rfl : w₁ = w₂ := congrArg Prod.snd haccepted
  obtain ⟨given, w₃, hgiven, hloaded⟩ := Act.bind_eq_ok hloaded
  cases hgiven
  obtain ⟨_, w₄, henv, hloaded⟩ := Act.bind_eq_ok hloaded
  have hstays := Config.loadEnvFile_stays (some (path.parent?.getD ".")) w
  rw [henv] at hstays
  obtain ⟨c, w₅, hconfig, hpair⟩ := Act.bind_eq_ok hloaded
  cases hpair
  obtain ⟨text, told, hread, htold, hpath, hstays'⟩ := Config.load_eq_ok hconfig
  rw [hstays.files, hstays.here] at hread
  obtain ⟨base, hbase⟩ := FileTree.exists_parent?_of_read hread
  obtain ⟨rfl, hregistry⟩ := Deployment.ofConfig_eq_ok hset
  rw [hbase] at hpath hregistry
  rw [(hstays.trans hstays').here] at hregistry
  exact ⟨base, text, told, hbase, hread, htold, hpath, hregistry⟩

/-- Documents that are kept in a directory are kept in the one that the configuration names, joined to the directory of
the configuration twice.  That is the directory itself if it is absolute.  A relative one is where it was meant to be,
joined once, if and only if the path of the configuration is absolute or a bare name; and only where one of the two is
absolute does it not matter from where the configuration is loaded. -/
theorem loadDeployment_directory {path : Path} {d : Deployment} (h : loadDeployment (some path) w = (.ok d, w'))
    (hlocal : d.config.registry.backend = .directory) :
    ∃ base text told, path.parent? = some base ∧ w.files.read w.here path = .ok text ∧
      Config.ofText text (some path) = .ok told ∧
      (told.registry.path = none → d.registry = .directory (Path.join w.here Directory.defaultName)) ∧
      ∀ q : Path, told.registry.path = some q → d.registry = .directory (base.join (base.join q)) ∧
        (q.isAbsolute = true → base.join (base.join q) = q) ∧
        (q.isAbsolute = false →
          (base.join (base.join q) = base.join q ↔ path.isAbsolute = true ∨ base = "")) ∧
        (q.isAbsolute = true ∨ path.isAbsolute = true → ∀ (t : FileTree) (here here' : String),
          t.locate here (base.join (base.join q)) = t.locate here' (base.join (base.join q))) := by
  obtain ⟨base, text, told, hbase, hread, htold, hpath, hregistry⟩ := loadDeployment_eq_ok h
  have habsolute : base.isAbsolute = path.isAbsolute := Path.isAbsolute_of_parent? hbase
  unfold Registry.ofConfig at hregistry
  rw [hlocal, hpath] at hregistry
  refine ⟨base, text, told, hbase, hread, htold, fun hnone => ?_, fun q hq => ?_⟩
  · rw [hnone] at hregistry
    exact (Except.ok.inj hregistry).symm
  · rw [hq] at hregistry
    refine ⟨(Except.ok.inj hregistry).symm, fun habs => ?_, fun hrelative => ?_, fun habs t here here' => ?_⟩
    · rw [Path.join_of_isAbsolute base habs, Path.join_of_isAbsolute base habs]
    · rw [Path.join_join, hrelative, habsolute]
      simp
    · refine FileTree.locate_of_isAbsolute ?_ here here'
      rw [Path.isAbsolute_join, Path.isAbsolute_join, habsolute]
      rcases habs with hq | hp
      · rw [hq, Bool.or_true, Bool.or_true]
      · rw [hp, Bool.true_or]

/-- A configuration in the directory `conf` with its documents in the directory `registry` beside it. -/
def conf : World Obliging :=
  let text := "registry:\n  backend: local\n  path: registry\n"
  World.start ⟨Obliging.single "mysql"⟩ "/work" (((FileTree.empty.put "/work" .directory).put "/work/conf" .directory).put
    "/work/conf/converge.yaml" (.file text))

/-- The registry that is found when the configuration is loaded under one of its names. -/
def registryOf (path : Path) : Option (Registry × Config.Backend) :=
  (loadDeployment (some path) conf).1.toOption.map fun d => (d.registry, d.config.registry.backend)

theorem registryOf_relative : registryOf "conf/converge.yaml" = some (.directory "conf/conf/registry", .directory) := by
  decide +kernel

theorem loadDeployment_directory_conf : ∃ (d : Deployment) (w' : World Obliging),
    loadDeployment (some "conf/converge.yaml") conf = (.ok d, w') ∧ d.config.registry.backend = .directory ∧
      ∃ base text told, Path.parent? "conf/converge.yaml" = some base ∧
        conf.files.read conf.here "conf/converge.yaml" = .ok text ∧
        Config.ofText text (some "conf/converge.yaml") = .ok told ∧
        ∀ q : Path, told.registry.path = some q → d.registry = .directory (base.join (base.join q)) := by
  have hregistry := registryOf_relative
  unfold registryOf at hregistry
  rcases hloaded : (loadDeployment (some "conf/converge.yaml") conf : Except Fault Deployment × _) with ⟨_ | d, w'⟩
  · rw [hloaded] at hregistry
    cases hregistry
  · rw [hloaded] at hregistry
    have hlocal : d.config.registry.backend = .directory := congrArg Prod.snd (Option.some.inj hregistry)
    obtain ⟨base, text, told, hbase, hread, htold, -, hdirectory⟩ := loadDeployment_directory hloaded hlocal
    exact ⟨d, w', rfl, hlocal, base, text, told, hbase, hread, htold, fun q hq => (hdirectory q hq).1⟩

/-- Two names of one file, and two directories: under the relative name it is not the one beside the file. -/
theorem registry_of_two_names :
    (conf.files.locate conf.here "conf/converge.yaml").toOption = some "/work/conf/converge.yaml" ∧
      (conf.files.locate conf.here "/work/conf/converge.yaml").toOption = some "/work/conf/converge.yaml" ∧
      registryOf "conf/converge.yaml" = some (.directory "conf/conf/registry", .directory) ∧
      Path.join "conf" "registry" = "conf/registry" ∧
      registryOf "/work/conf/converge.yaml" = some (.directory "/work/conf/registry", .directory) := by
  decide +kernel

end Cli

end Rollout
