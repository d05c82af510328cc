import Rollout.Digest.Fingerprint
import Rollout.Registry.Directory
import Rollout.Registry.Server

/-!
# Rollout.Registry — where documents are kept

Variables and the progress of upgrades are documents under keys.  They are kept in the shared store, in a directory
or on a server; what the engine does with them is the same everywhere.

* `Registry.get`, `Registry.put`, `Registry.delete`: the three accesses, each noted with its success.
* `Registry.read`, `Registry.update`, `Registry.deleteIfPresent`: typed values.
* `Registry.endpoint?`: the address under which the provisioner can keep its own state.
-/

namespace Rollout

/-- Where documents are kept. -/
inductive Registry
  | shared (endpoint : Option String)
  | directory (path : Path)
  | server (s : Server)
deriving DecidableEq, Repr, Inhabited

/-! ## The shared store -/

namespace Store

variable {σ : Type} [Host σ]

/-- An access to the store, unless the host refuses it. -/
def access (a : Access) (x : Act σ α) : Act σ α := fun w =>
  let (refusal, host) := Host.refuse a w.host
  let w := { w with host }
  match refusal with
  | some fault => (.error fault, w)
  | none => x w

def get (key : String) : Act σ (Option Json) :=
  access (.get key) (Act.asks fun w => w.store.get? key)

def put (key : String) (value : Json) : Act σ Unit :=
  access (.put key value) fun w => (.ok (), { w with store := w.store.insert key value })

def delete (key : String) : Act σ Unit :=
  access (.delete key) fun w =>
    if w.store.contains key then (.ok (), { w with store := w.store.erase key })
    else (.error (.registry (.notFound key)), w)

end Store

namespace Registry

/-- The name of the kind. -/
def kind : Registry → String
  | shared _ => "memory"
  | directory _ => "local"
  | server _ => "http"

/-- The address under which the provisioner can keep its own state. -/
def endpoint? : Registry → Option String
  | shared endpoint => endpoint
  | directory _ => none
  | server s => some s.address

variable {σ : Type} [Host σ]

/-- Notes an access together with its success. -/
def noted (a : Access) (x : Act σ α) : Act σ α := fun w =>
  match x w with
  | (.ok r, w) => (.ok r, w.note (.access a true))
  | (.error e, w) => (.error e, w.note (.access a false))

/-- The document of a key. -/
def get (r : Registry) (key : String) : Act σ (Option Json) :=
  noted (.get key) <| match r with
    | shared _ => Store.get key
    | directory path => Directory.get path key
    | server s => s.get key

/-- Stores the document of a key. -/
def put (r : Registry) (key : String) (value : Json) : Act σ Unit :=
  noted (.put key value) <| match r with
    | shared _ => Store.put key value
    | directory path => Directory.put path key value
    | server s => s.put key value

/-- Removes the document of a key, which must be there. -/
def delete (r : Registry) (key : String) : Act σ Unit :=
  noted (.delete key) <| match r with
    | shared _ => Store.delete key
    | directory path => Directory.delete path key
    | server s => s.delete key

/-! ## Typed values -/

/-- The value of a key, if there is one. -/
def read (r : Registry) (d : Decoder α) (key : String) : Act σ (Option α) := do
  match ← r.get key with
  | none => return none
  | some value => match d.ofJson value with
    | .ok a => return some a
    | .error e => Act.fail (.registry (.corrupted key e.message))

/-- Stores a value, with the members of its objects in the order of their keys. -/
def update (r : Registry) (key : String) (value : Json) : Act σ Unit := r.put key value.sort

/-- Removes the document of a key and tells whether there was one. -/
def deleteIfPresent (r : Registry) (key : String) : Act σ Bool := do
  match ← (r.delete key).attempt with
  | .ok _ => return true
  | .error (.registry (.notFound _)) => return false
  | .error e => Act.fail e

end Registry

end Rollout
