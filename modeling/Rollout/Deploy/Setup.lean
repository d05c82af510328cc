import Rollout.Config.Load
import Rollout.Deploy.Deployment

/-!
# Rollout.Deploy.Setup — from a configuration to an installation

* `Registry.ofConfig`: the registry that a configuration names.
* `Deployment.ofConfig`: the installation, with its manifest read.
-/

namespace Rollout

/-- The registry that a configuration names. -/
def Registry.ofConfig (base : Option Path) (here : Path) (c : Config.Registry) : Except Fault Registry :=
  match c.backend with
  | .http => match c.address with
    | some address => (Server.ofAddress address).map .server
    | none => .error (.config (.invalid "http registry requires an address" (some "registry.address")))
  | .directory => match c.path with
    | some path => .ok (.directory (Config.resolve base path))
    | none => .ok (.directory (here.join Directory.defaultName))
  | .memory => .ok (.shared none)

namespace Deployment

variable {σ : Type} [Host σ]

/-- The installation of a configuration. -/
def ofConfig (base : Option Path) (c : Config) : Act σ Deployment := do
  let manifest ← Manifest.load base c
  let here ← Act.asks World.here
  let registry ← Act.ofExcept (Registry.ofConfig base here c.registry)
  return ⟨c, manifest, registry, .ofConfig c.orchestrator⟩

end Deployment

end Rollout
