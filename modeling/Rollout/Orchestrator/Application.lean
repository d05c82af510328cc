import Rollout.Doc.Record
import Rollout.Text.Digit
import Rollout.Text.Search

/-!
# Rollout.Orchestrator.Application — what runs where

An application has a status and units, each with a status of its workload and one of the agent beside it.  Units
are named `application/number`.

* `Application.settled`: whether the application and every unit listed have an accepted status.
* `Application.leader?`, `Application.highest?`: the unit that leads, and the one with the greatest number.
* `AppUnit.upgraded`: whether a unit reports the end of its upgrade.
-/

namespace Rollout

/-- One unit of an application. -/
structure AppUnit where
  workload : String
  message : String
  agent : String
  leader : Bool
deriving DecidableEq, Repr, Inhabited

/-- A deployed application. -/
structure Application where
  name : String
  status : String
  revision : Option Nat
  channel : Option String
  scale : Nat
  units : Table AppUnit
deriving DecidableEq

namespace AppUnit

/-- What a unit says at the end of its upgrade, in any case of its letters. -/
def upgradeMark : String := "upgrade completed"

/-- Whether the unit reports the end of its upgrade and its agent is idle.  No character but the letters
themselves has one of the letters of the mark as its small form. -/
def upgraded (u : AppUnit) : Bool :=
  u.workload = "maintenance" && Text.holds upgradeMark.toList (u.message.toList.map Char.toLower) && u.agent = "idle"

/-- Workload and agent. -/
def text (u : AppUnit) : String := u.workload ++ "/" ++ u.agent

def toJson (u : AppUnit) : Json :=
  .obj [("workload_status", .str u.workload), ("workload_message", .str u.message),
    ("agent_status", .str u.agent), ("leader", .bool u.leader)]

def decoder : Decoder AppUnit :=
  Fields.closed "UnitInfo"
    (AppUnit.mk <$> Fields.required "workload_status" Decoder.string
      <*> Fields.required "workload_message" Decoder.string
      <*> Fields.required "agent_status" Decoder.string
      <*> Fields.required "leader" Decoder.bool)

end AppUnit

namespace Application

/-- A number of 64 bits; it may carry a plus sign. -/
def number? (cs : List Char) : Option Nat :=
  let digits := match cs with
    | '+' :: rest => rest
    | cs => cs
  (Text.natural? 10 digits).filter (· < UInt64.size)

/-- The number of a unit: what stands after the last slash, zero if that is no number. -/
def ordinal (unit : String) : Nat :=
  (number? (unit.toList.reverse.takeWhile (· ≠ '/')).reverse).getD 0

/-- The first unit that leads. -/
def leader? (a : Application) : Option String :=
  (a.units.entries.find? (·.2.leader)).map Prod.fst

/-- Keeps the better of two units; of two equal ones the later. -/
def higher (best : Option String) (unit : String) : Option String :=
  match best with
  | some b => if ordinal unit < ordinal b then some b else some unit
  | none => some unit

/-- The unit with the greatest number. -/
def highest? (a : Application) : Option String := a.units.keys.foldl higher none

/-- Whether the application and every unit have an accepted status. -/
def settled (a : Application) (accepted : List String) : Bool :=
  accepted.contains a.status && a.units.values.all fun u => accepted.contains u.workload

/-- Name, status and units in one line. -/
def summary (a : Application) : String :=
  a.name ++ " " ++ a.status ++ String.join (a.units.entries.map fun (name, u) => ", " ++ name ++ " " ++ u.text)

def toJson (a : Application) : Json :=
  .obj [("name", .str a.name), ("status", .str a.status), ("charm_revision", .ofOption .nat a.revision),
    ("charm_channel", .ofOption .str a.channel), ("scale", .nat a.scale),
    ("units", .ofTable (a.units.map AppUnit.toJson))]

def decoder : Decoder Application :=
  Fields.closed "ApplicationInfo"
    (Application.mk <$> Fields.required "name" Decoder.string
      <*> Fields.required "status" Decoder.string
      <*> Fields.nullable "charm_revision" Decoder.u64
      <*> Fields.nullable "charm_channel" Decoder.string
      <*> Fields.required "scale" Decoder.u32
      <*> Fields.required "units" (Decoder.table AppUnit.decoder))

end Application

end Rollout
