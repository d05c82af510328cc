import Rollout.Config.EnvFile
import Rollout.Config.File
import Rollout.World.Disk

/-!
# Rollout.Config.Load — configuration from files and the environment

A configuration is looked for in a directory and those above it, and then among the files of the user.  Relative
paths in it start from a base directory, if there is one; some variables of the environment take precedence over
what it says.

* `Config.find`: where the configuration is.
* `Config.load`, `Manifest.load`: reading the files.
* `Config.loadEnvFile`: adds variables from a file to the environment.
-/

namespace Rollout

namespace Config

/-- The names that a configuration may have, the preferred one first. -/
def fileNames : List String := ["converge.yaml", "converge.yml"]

/-- The name that a configuration usually has. -/
def usualName : String := "converge.yaml"

/-- The path seen from a base directory. -/
def resolve (base : Option Path) (p : Path) : Path :=
  match base with
  | some dir => dir.join p
  | none => p

/-- The directory of a user's own settings. -/
def userDir? (env : Table String) : Option Path :=
  match (env.get? "XDG_CONFIG_HOME").filter Path.isAbsolute with
  | some dir => some dir
  | none => ((env.get? "HOME").filter (· ≠ "")).map fun home => Path.join home ".config"

/-- The places where a configuration is looked for, in order. -/
def candidates (start : Path) (env : Table String) : List Path :=
  (start.lineage.flatMap fun dir => fileNames.map dir.join) ++
    ((userDir? env).map fun dir => (dir.join "converge").join usualName).toList

/-- The configuration with the variables of the environment that take precedence. -/
def adjust (env : Table String) (c : Config) : Config :=
  let c := match env.get? "CONVERGE_REGISTRY_ADDRESS" with
    | some address => { c with registry := { c.registry with address := some address, backend := .http } }
    | none => c
  let c := match env.get? "CONVERGE_PROVISIONER_BINARY" with
    | some binary => { c with provisioner := { c.provisioner with binary } }
    | none => c
  match env.get? "CONVERGE_ORCHESTRATOR_MODEL" with
  | some model => { c with orchestrator := { c.orchestrator with model } }
  | none => c

/-- The configuration with the paths of its directories seen from a base. -/
def place (base : Option Path) (c : Config) : Config :=
  { c with
    provisioner := { c.provisioner with plansDir := resolve base c.provisioner.plansDir }
    registry := { c.registry with path := c.registry.path.map (resolve base) } }

variable {σ : Type} [Host σ]

/-- The first place where there is a configuration. -/
def find (start : Path) : Act σ Path := do
  let found ← Act.asks fun w => (candidates start w.env).find? (w.files.contains w.here ·)
  match found with
  | some path => return path
  | none => Act.fail (.config (.fileNotFound (start.join usualName)))

/-- The text of a file that a configuration is read from. -/
def source (path : Path) : Act σ String := do
  if ← Disk.contains path then
    match ← Disk.read path with
    | .ok text => return text
    | .error e => Act.fail (.config (.unreadable ("Failed to read file: " ++ e.message) (some path)))
  else Act.fail (.config (.fileNotFound path))

/-- The configuration in a file, with paths seen from a base. -/
def ofFile (base : Option Path) (path : Path) : Act σ Config := do
  let c ← Act.ofExcept (Config.ofText (← source path) (some path))
  return c.place base

/-- The configuration in a file, with what takes precedence over it. -/
def load (base : Option Path) (path : Path) : Act σ Config := do
  let c ← ofFile base path
  Act.asks fun w => c.adjust w.env

/-- The file of variables in a base directory. -/
def envFile (base : Option Path) : Path := resolve base ".env"

def envFault (path : Path) (message : String) : Fault :=
  .config (.unreadable ("Failed to load .env file: " ++ message) (some path))

/-- Adds the variables of a file to the environment, if there is such a file. -/
def loadEnvFile (base : Option Path) : Act σ Unit := do
  let path := envFile base
  if ← Disk.contains path then
    match ← Disk.read path with
    | .error e => Act.fail (envFault path e.message)
    | .ok text => fun w =>
      let (env, r) := EnvFile.load text w.env
      (r.mapError fun r => envFault path r.message, { w with env })
  else return ()

end Config

/-- The manifest that a configuration names; without one it is empty. -/
def Manifest.load {σ : Type} [Host σ] (base : Option Path) (c : Config) : Act σ Manifest := do
  match c.manifest with
  | none => return .empty
  | some path =>
    let path := Config.resolve base path
    Act.ofExcept (Manifest.ofText (← Config.source path) path)

end Rollout
