import Rollout.Doc.Record
import Rollout.Time.Instant

/-!
# Rollout.Registry.Lock — who holds the remote state of a plan

While the provisioner works on a plan it leaves a record of who works on it since when.
-/

namespace Rollout

/-- The record of a held lock. -/
structure Lock where
  id : String
  operation : String
  info : String
  who : String
  version : String
  created : Instant
  path : String
deriving DecidableEq, Repr, Inhabited

namespace Lock

/-- How long the lock has been held, in seconds. -/
def age (l : Lock) (now : Instant) : Nat := l.created.secondsSince now

/-- The wire form. -/
def toJson (l : Lock) : Json :=
  .obj [("ID", .str l.id), ("Operation", .str l.operation), ("Info", .str l.info), ("Who", .str l.who),
    ("Version", .str l.version), ("Created", .str l.created.text), ("Path", .str l.path)]

/-- A date and time with offset. -/
def instant : Decoder Instant := fun doc => do
  match Instant.parse (← Decoder.text "an RFC 3339 formatted date and time string" doc) with
  | .ok t => return t
  | .error e => Reading.fail (.custom e.message)

def decoder : Decoder Lock :=
  Fields.closed "ProvisionerLock"
    (Lock.mk <$> Fields.required "ID" Decoder.string
      <*> Fields.withDefault "Operation" Decoder.string ""
      <*> Fields.withDefault "Info" Decoder.string ""
      <*> Fields.withDefault "Who" Decoder.string ""
      <*> Fields.withDefault "Version" Decoder.string ""
      <*> Fields.required "Created" instant
      <*> Fields.withDefault "Path" Decoder.string "")

end Lock

end Rollout
