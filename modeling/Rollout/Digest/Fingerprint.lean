import Rollout.Digest.Sha256
import Rollout.Json.Printer

/-!
# Rollout.Digest.Fingerprint — fingerprints of documents

A fingerprint tells whether a document changed.  It is the digest of a text in which object members stand by
rising key, so it does not depend on the order in which members were written.

* `Json.sort`: a document with the members of every object by rising key.
* `Fingerprint.preimage`: the text that is digested.
* `Fingerprint.ofJson`, `Fingerprint.ofText`, `Fingerprint.short`.
-/

namespace Rollout

namespace Json

mutual

/-- The document with the members of every object by rising key. -/
def sort : Json → Json
  | arr items => .arr (sortItems items)
  | obj members => .ofEntries (sortMembers members)
  | j => j

def sortItems : List Json → List Json
  | [] => []
  | a :: as => sort a :: sortItems as

def sortMembers : List (String × Json) → List (String × Json)
  | [] => []
  | (k, a) :: as => (k, sort a) :: sortMembers as

end

end Json

namespace Fingerprint

mutual

/-- The text of a document that is digested: every item and member is closed by a comma, keys stand as they
are, scalars as in document text. -/
def preimage : Json → String
  | .arr items => "[" ++ preimageItems items ++ "]"
  | .obj members => "\x7b" ++ preimageMembers members ++ "\x7d"
  | scalar => scalar.compact

def preimageItems : List Json → String
  | [] => ""
  | a :: as => preimage a ++ "," ++ preimageItems as

def preimageMembers : List (String × Json) → String
  | [] => ""
  | (k, a) :: as => k ++ ":" ++ preimage a ++ "," ++ preimageMembers as

end

/-- The fingerprint of a text. -/
def ofText (text : String) : String := Digest.sha256Hex (Text.encode text)

/-- The fingerprint of a document. -/
def ofJson (j : Json) : String := ofText (preimage j.sort)

/-- The characters that fill exactly `n` bytes, if there are such. -/
def takeBytes : Nat → List Char → Option (List Char)
  | 0, _ => some []
  | _ + 1, [] => none
  | n + 1, c :: cs =>
    let size := (Text.encodeChar c).length
    if size ≤ n + 1 then (takeBytes (n + 1 - size) cs).map (c :: ·) else none

/-- The first twelve bytes of a text that has so many and a character boundary there, else the whole text. -/
def short (text : String) : String :=
  match takeBytes 12 text.toList with
  | some cs => String.ofList cs
  | none => text

end Fingerprint

end Rollout
