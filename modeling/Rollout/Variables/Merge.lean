import Rollout.Config.Bindings
import Rollout.Config.Manifest

/-!
# Rollout.Variables.Merge — the variables of a plan

The variables handed to the provisioner come from three places: what was persisted last time, what the manifest
says, and what the operator sets on the command line.

* `Json.isTruthy`: whether a manifest value counts as set.
* `Variables.merge`: bound variables fall back to their default, take the manifest's value where it is set, and
  are overridden last; an override that is an object extends the object below it.
-/

namespace Rollout

/-- The variables of a plan by name. -/
abbrev Variables := Table Json

/-- The smallest number that counts as set, `2 ^ -52`, is still none. -/
def Number.exceedsEpsilon : Number → Bool
  | .int i => i ≠ 0
  | .float x => Binary64.lt ⟨false, Binary64.leastNormal, -104⟩ { x with negative := false }

/-- Whether a value counts as set: not null, false, empty or a number next to zero. -/
def Json.isTruthy : Json → Bool
  | .null => false
  | .bool b => b
  | .num n => n.exceedsEpsilon
  | .str s => s ≠ ""
  | .arr items => !items.isEmpty
  | .obj members => !members.isEmpty

namespace Variables

/-- Removes every variable named. -/
def dropAll (vars : Variables) (names : List String) : Variables := names.foldl Table.erase vars

/-- Takes in what the manifest says for one binding, if it is set. -/
def applyBinding (m : Manifest) (vars : Variables) (b : Binding) : Variables :=
  match m.attr? b.component b.attr with
  | some value => if value.isTruthy then vars.insert b.var value else vars
  | none => vars

/-- The value of a variable under an override: of two objects the members are put together. -/
def overlay : Option Json → Json → Json
  | some (.obj base), .obj update => .ofTable ((Table.ofList base).insertAll update)
  | _, value => value

/-- Takes in one override. -/
def applyOverride (vars : Variables) (o : String × Json) : Variables :=
  vars.insert o.1 (overlay (vars.get? o.1) o.2)

/-- The variables of a plan. -/
def merge (persisted : Variables) (bindings : Bindings) (m : Manifest) (overrides : Option Variables)
    (selection : Option (List String)) : Variables :=
  let reset := dropAll persisted (bindings.defaultable selection).keys
  let set := (bindings.selected selection).foldl (applyBinding m) reset
  match overrides with
  | none => set
  | some o => o.entries.foldl applyOverride set

end Variables

end Rollout
