import Rollout.Fault
import Rollout.Text.Blank
import Rollout.Doc.Record

/-!
# Rollout.Outcome — how a step ended

An outcome says that a step was completed, skipped or failed, with an optional message for the operator and an
optional payload.  A failed outcome always carries a reason.

* `Outcome.failed`, `Outcome.withMessage`, `Outcome.withPayload`: the ways to make one.
* `Outcome.toJson`, `Outcome.decoder`: its wire form.
-/

namespace Rollout

namespace Outcome

/-- How a step ended. -/
inductive Kind
  | completed
  | skipped
  | failed
deriving DecidableEq, Repr, Inhabited

def Kind.text : Kind → String
  | completed => "COMPLETED"
  | skipped => "SKIPPED"
  | failed => "FAILED"

end Outcome

/-- How a step ended, with what it has to say. -/
structure Outcome where
  kind : Outcome.Kind
  message : Option String
  payload : Option Json
deriving Repr, Inhabited

namespace Outcome

def completed : Outcome := ⟨.completed, none, none⟩

def skipped : Outcome := ⟨.skipped, none, none⟩

/-- The reason given where none was. -/
def unspecifiedFailure : String := "step failed without a reason"

/-- A failure for a reason; a blank reason is replaced. -/
def failed (reason : String) : Outcome :=
  ⟨.failed, some (if Text.isBlank reason then unspecifiedFailure else reason), none⟩

/-- The failure that a fault amounts to. -/
def ofFault (fault : Fault) : Outcome := failed fault.message

/-- The outcome of an operation whose value does not matter. -/
def ofResult : Except Fault α → Outcome
  | .ok _ => completed
  | .error fault => ofFault fault

/-- Sets the message; a failure keeps its reason when the new message is blank. -/
def withMessage (o : Outcome) (message : String) : Outcome :=
  if o.kind = .failed ∧ Text.isBlank message then o else { o with message := some message }

def withPayload (o : Outcome) (payload : Json) : Outcome := { o with payload := some payload }

def isCompleted (o : Outcome) : Bool := o.kind = .completed

def isSkipped (o : Outcome) : Bool := o.kind = .skipped

def isFailed (o : Outcome) : Bool := o.kind = .failed

/-- The kind, and the message if there is one. -/
def text (o : Outcome) : String :=
  match o.message with
  | some message => o.kind.text ++ ": " ++ message
  | none => o.kind.text

/-- The wire form, without the members that are absent. -/
def toJson (o : Outcome) : Json :=
  .record [("kind", some (.str o.kind.text)), ("message", o.message.map .str), ("payload", o.payload)]

/-- Equality of outcomes, with payloads compared as documents. -/
def same (a b : Outcome) : Bool :=
  a.kind = b.kind && a.message = b.message && match a.payload, b.payload with
    | none, none => true
    | some p, some q => p.same q
    | _, _ => false

/-- What the wire form of a failure without a reason is refused with. -/
def reasonRequired : String := "a FAILED outcome requires a non-empty message"

/-- Refuses a failure without a reason. -/
def check (o : Outcome) : Except String Outcome :=
  if o.kind = .failed ∧ Text.isBlank (o.message.getD "") then .error reasonRequired else .ok o

/-- Reads the wire form. -/
def decoder : Decoder Outcome :=
  let kinds := [Kind.completed, .skipped, .failed].map fun k => (k.text, k)
  Decoder.refine
    (Fields.closed "OutcomeRecord"
      (Outcome.mk <$> Fields.required "kind" (Decoder.enumeration kinds)
        <*> Fields.optional "message" Decoder.string
        <*> Fields.optional "payload" Decoder.json))
    check

end Outcome

end Rollout
