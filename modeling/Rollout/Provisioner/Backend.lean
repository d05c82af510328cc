import Rollout.Registry.Server
import Rollout.World.Disk

/-!
# Rollout.Provisioner.Backend — where the provisioner keeps its state

When the registry is a server, the provisioner keeps the state of a plan there as well and takes its lock there.  A
file in the directory of the plan tells it so.

* `StateBackend.forPlan`: the addresses of a plan.
* `StateBackend.render`: the text of the file.
* `writeIfChanged`: writes a file unless it holds the text already.
-/

namespace Rollout

/-- The addresses and methods by which the provisioner reaches its state. -/
structure StateBackend where
  address : String
  updateMethod : String
  lockAddress : String
  lockMethod : String
  unlockAddress : String
  unlockMethod : String
  skipCertVerification : Bool
deriving DecidableEq, Repr, Inhabited

namespace StateBackend

/-- The name of the file. -/
def fileName : Path := "backend.tf"

/-- The collection in which states are kept. -/
def states : String := "terraformstate"

/-- The state of a plan below an endpoint. -/
def forPlan (endpoint plan : String) : StateBackend :=
  let endpoint := Server.trimSlashes endpoint
  let below (collection : String) : String := endpoint ++ "/" ++ collection ++ "/" ++ plan
  ⟨below states, "PUT", below Server.locks, "PUT", below Server.unlocks, "PUT", true⟩

def toJson (b : StateBackend) : Json :=
  .obj [("address", .str b.address), ("lock_address", .str b.lockAddress), ("lock_method", .str b.lockMethod),
    ("skip_cert_verification", .bool b.skipCertVerification), ("unlock_address", .str b.unlockAddress),
    ("unlock_method", .str b.unlockMethod), ("update_method", .str b.updateMethod)]

/-- One setting on a line of its own. -/
def setting (key : String) (value : Json) : String := "    " ++ key ++ " = " ++ value.compact ++ "\n"

/-- The text of the file: one setting per line, by rising name. -/
def render (b : StateBackend) : String :=
  let settings := match b.toJson with
    | .obj members => String.join (members.map fun (k, v) => setting k v)
    | _ => ""
  "terraform \x7b\n  backend \"http\" \x7b\n" ++ settings ++ "  \x7d\n\x7d\n"

end StateBackend

variable {σ : Type} [Host σ]

/-- Goes on after a step on files, or ends with what the system said. -/
def orIo (x : Act σ (Except OsFault α)) : Act σ α := do
  match ← x with
  | .ok a => return a
  | .error e => Act.fail (.io e.message)

/-- Makes a file hold a text and tells whether it was written for that. -/
def writeIfChanged (path : Path) (text : String) : Act σ Bool := do
  let current ← if ← Disk.contains path then some <$> orIo (Disk.read path) else pure none
  if current = some text then return false
  else do
    orIo (Disk.write path text)
    return true

end Rollout
