import Rollout.Doc.Record
import Rollout.Json.Reader

/-!
# Rollout.Json.Decode — typed decoding of document text

A fault of the text or of a type is reported where it stands first; what follows the value is looked at last.
-/

namespace Rollout

/-- How many lists and objects may stand in one another in a text that is decoded. -/
def Json.maxDepth : Nat := 127

/-- Decodes a text of the exchange format. -/
def Decoder.ofText (d : Decoder α) (text : String) : Except DecodeFault α := do
  let (doc, after) := Doc.ofText text
  let a ← ((d doc).run (.plain .text) Json.maxDepth).mapError LocatedFault.fault
  match after with
  | some fault => .error (.text fault)
  | none => return a

/-- Reads a text of the exchange format as a value. -/
def Json.ofText (text : String) : Except DecodeFault Json := Decoder.ofText Decoder.json text

end Rollout
