import Rollout.Registry.Basic
import Rollout.Variables.Merge

/-!
# Rollout.Variables.Reconcile — variables in the registry

The variables of a plan are persisted as one document.  Reconciling computes them anew from what was persisted and
from what is desired.
-/

namespace Rollout.Variables

variable {σ : Type} [Host σ]

def decoder : Decoder Variables := Decoder.table Decoder.json

/-- The variables persisted under a key; none if there are none. -/
def persisted (r : Registry) (key : String) : Act σ Variables := do
  return (← r.read decoder key).getD Table.empty

/-- Persists variables under a key. -/
def persist (r : Registry) (key : String) (vars : Variables) : Act σ Unit := r.update key (.ofTable vars)

/-- What variables are computed from, beside those that were persisted. -/
structure Desired where
  bindings : Bindings
  manifest : Manifest
  overrides : Option Variables
  selection : Option (List String)

/-- The variables that follow from those persisted and those desired. -/
def Desired.over (d : Desired) (persisted : Variables) : Variables :=
  merge persisted d.bindings d.manifest d.overrides d.selection

/-- Tells what the persisted variables have to be. -/
def explain : Fault → Fault
  | .registry (.corrupted key message) =>
    .registry (.corrupted key ("persisted variables must be an object: " ++ message))
  | fault => fault

/-- Computes the variables of a key and persists them if asked to. -/
def reconcile (r : Registry) (key : String) (d : Desired) (persisting : Bool) : Act σ Variables := do
  let vars := d.over (← (persisted r key).mapFault explain)
  if persisting then persist r key vars
  return vars

end Rollout.Variables
