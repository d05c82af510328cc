import Rollout.Doc.Plain
import Rollout.Text.Quoted

/-!
# Rollout.Doc.Fault — why a document is refused

* `Found`: what a decoder found in place of what it wanted.
* `DecodeFault`: what can be wrong with a document, with its message.
* `Doc.mismatch`: the fault of a document in place of what is expected.
* `LocatedFault`: a fault and the part of the document that has it.
-/

namespace Rollout

/-- What a decoder found in place of what it wanted. -/
inductive Found
  | null
  /-- A scalar that stands for nothing. -/
  | unit
  | bool (value : Bool)
  | num (value : Number)
  /-- An integer too large for a document. -/
  | wide (value : Int)
  /-- An infinity or no number, by its word. -/
  | notFinite (word : String)
  | str (value : String)
  | seq
  | map
  | enumeration
deriving DecidableEq, Repr, Inhabited

/-- What is wrong with a document of the wrong shape. -/
inductive DecodeFault
  | text (fault : TextFault)
  | type (found : Found) (expected : String)
  | value (found : Found) (expected : String)
  | missing (field : String)
  | duplicate (field : String)
  | variant (name : String) (known : List String)
  | length (count : Nat) (expected : String)
  | custom (message : String)
deriving DecidableEq, Repr, Inhabited

namespace Found

/-- What a scalar written as `s` is. -/
def ofScalar (s : String) : Scalar → Found
  | .null => unit
  | .bool b => bool b
  | .num n => num n
  | .wide => wide ((Scalar.integer? s.toList).getD 0)
  | .notFinite =>
    let letters := s.toLower.toList.filter Char.isAlpha
    notFinite (if letters = "nan".toList then "NaN" else if s.toList.head? = some '-' then "-inf" else "inf")
  | .text => str s

def text : Found → String
  | null => "null"
  | unit => "unit value"
  | bool true => "boolean `true`"
  | bool false => "boolean `false`"
  | num (.int i) => "integer `" ++ toString i ++ "`"
  | num (.float x) => "floating point `" ++ x.text ++ "`"
  | wide i => "integer `" ++ toString i ++ (if i < 0 then "` as i128" else "` as u128")
  | notFinite word => "floating point `" ++ word ++ "`"
  | str s => "string " ++ Text.quoted s
  | seq => "sequence"
  | map => "map"
  | enumeration => "enum"

end Found

namespace DecodeFault

/-- Known names in a row: one alone, two with "or", more after "one of". -/
def oneOf : List String → String
  | [] => "there are no variants"
  | [a] => "expected `" ++ a ++ "`"
  | [a, b] => "expected `" ++ a ++ "` or `" ++ b ++ "`"
  | names => "expected one of " ++ String.intercalate ", " (names.map fun a => "`" ++ a ++ "`")

def message : DecodeFault → String
  | text fault => fault.message
  | type found expected => "invalid type: " ++ found.text ++ ", expected " ++ expected
  | value found expected => "invalid value: " ++ found.text ++ ", expected " ++ expected
  | missing field => "missing field `" ++ field ++ "`"
  | duplicate field => "duplicate field `" ++ field ++ "`"
  | variant name [] => "unknown variant `" ++ name ++ "`, there are no variants"
  | variant name known => "unknown variant `" ++ name ++ "`, " ++ oneOf known
  | length count expected => "invalid length " ++ toString count ++ ", expected " ++ expected
  | custom message => message

end DecodeFault

/-- What a scalar stands for when its kind is asked for; a tag of the file's own leaves it as it would be without. -/
def Scalar.found (s : String) (style : Style) (tag : Option Tag) : Found :=
  match Scalar.read? s style tag with
  | some kind => .ofScalar s kind
  | none => .ofScalar s (if style = .plain then Scalar.resolve s else .text)

/-- What stands in a document. -/
def Doc.found : Doc → Found
  | .null => .null
  | .bool b => .bool b
  | .num n => .num n
  | .str s => .str s
  | .scalar s style tag => Scalar.found s style tag
  | .seq _ _ => .seq
  | .map _ _ => .map
  | .tagged _ body => body.found
  | .alias _ => .null
  | .broken _ => .null

/-- What a tag of the core schema demands of a scalar. -/
def Tag.demand? : Tag → Option String
  | .integer => some "an integer"
  | .fraction => some "a float"
  | .truth => some "a boolean"
  | .nothing => some "null"
  | _ => none

/-- The fault of finding this document in place of what is expected; a scalar that does not fit its own tag has the
fault of that. -/
def Doc.mismatch (expected : String) (doc : Doc) : DecodeFault :=
  match doc with
  | .broken flaw => .text flaw.seen
  | .scalar s style tag => match tag.bind Tag.demand?, Scalar.read? s style tag with
    | some demand, none => .value (.str s) demand
    | _, _ => .type doc.found expected
  | doc => .type doc.found expected

/-! ## Places -/

/-- A turn on the way from the root of a document to a part of it. -/
inductive Turn
  | item (index : Nat)
  | member (name : String)
  /-- To a member whose key is no text. -/
  | unnamed
deriving DecidableEq, Repr, Inhabited

/-- The turn to the member of a key. -/
def Turn.to : Doc → Turn
  | .scalar s _ _ => .member s
  | .str s => .member s
  | _ => .unnamed

/-- The text of a way, whose last turn comes first. -/
def Turn.wayText : List Turn → String
  | [] => "."
  | .item index :: way => wayText way ++ "[" ++ toString index ++ "]"
  | turn :: way =>
    (if way = [] then "" else wayText way ++ ".") ++ match turn with
      | .member name => name
      | _ => "?"

/-- A fault and the way to the part of the document that has it, if it is of one part. -/
structure LocatedFault where
  way : List Turn
  fault : DecodeFault
deriving DecidableEq, Repr, Inhabited

/-- The message of a fault, after the way to its place. -/
def LocatedFault.message (f : LocatedFault) : String :=
  if f.way = [] then f.fault.message else Turn.wayText f.way ++ ": " ++ f.fault.message

end Rollout
