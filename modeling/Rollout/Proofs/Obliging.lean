import Rollout.World.Basic

/-!
# Rollout.Proofs.Obliging — a host for which everything goes well

The statements of this library hold of every host.  `Obliging` is one of which they say something: its programs end well
and print nothing, its orchestrator runs one application and obeys, and it refuses no access.  `Wayward` is the same but
for calls that fail and orders that have no effect.
-/

namespace Rollout

/-- A host for which everything goes well, and the application that it runs. -/
structure Obliging where
  application : Application

namespace Obliging

/-- The only unit is active and leads. -/
def active : AppUnit := ⟨"active", "", "idle", true⟩

/-- The only unit has been refreshed. -/
def refreshed : AppUnit := ⟨"maintenance", "upgrade completed", "idle", true⟩

/-- The host with another state of its units. -/
def withUnits (o : Obliging) (u : AppUnit) : Obliging :=
  ⟨{ o.application with units := o.application.units.map fun _ => u }⟩

instance : Host Obliging where
  run _ _ _ o := ((0, .ok ⟨some 0, "", ""⟩), o)
  answer c o := match c with
    | .application _ => ((0, .ok (some o.application)), o)
    | .leader name => ((0, .ok (name ++ "/0")), o)
    | .action .. => ((0, .ok Table.empty), o.withUnits active)
    | .scale _ units => ((0, .ok ()), ⟨{ o.application with scale := units }⟩)
    | .refresh _ => ((0, .ok ()), o.withUnits refreshed)
    | .latestRevision .. => ((0, .ok none), o)
    | .upgradeStack _ => ((0, .ok []), o)
  exchange _ o := (none, o)
  disturb _ o := (none, o)
  refuse _ o := (none, o)

/-- An active application of one unit. -/
def single (name : String) : Application :=
  ⟨name, "active", some 1, some "8.0/stable", 1, Table.empty.insert (name ++ "/0") active⟩

/-- The world of the host at its start. -/
def world (name : String) : World Obliging := .start ⟨single name⟩ "" FileTree.empty

end Obliging

/-- A host that does as an obliging one does, but for the calls that fail and for those that have no effect. -/
structure Wayward where
  obliging : Obliging
  fails : Call → Bool
  ignores : Call → Bool

namespace Wayward

/-- What is wrong with a call that fails. -/
def lost : Fault := .orchestrator (.commandFailed "status" "ERROR connection is shut down")

instance : Host Wayward where
  run here files c o := ((Host.run here files c o.obliging).1, o)
  answer c o :=
    let answered := Host.answer c o.obliging
    ((answered.1.1, if o.fails c then .error lost else answered.1.2),
      if o.ignores c then o else { o with obliging := answered.2 })
  exchange _ o := (none, o)
  disturb _ o := (none, o)
  refuse _ o := (none, o)

/-- The world of the host at its start, with the calls that fail and those that have no effect. -/
def world (name : String) (fails ignores : Call → Bool) : World Wayward :=
  .start ⟨⟨Obliging.single name⟩, fails, ignores⟩ "" FileTree.empty

end Wayward

end Rollout
