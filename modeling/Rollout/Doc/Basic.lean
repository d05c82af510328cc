import Rollout.Json.Basic

/-!
# Rollout.Doc — documents as they were read

A document keeps what its text said and in which order: repeated members, scalars whose kind depends on what is
asked of them, and the place where reading could not go on.  Typed decoding walks a document in its own order,
so of a fault in the text and a fault of type the one that stands first is reported.

* `TextFault`: what can be wrong with the text of a document.
* `Flaw`: a fault together with what a reader notices who skips the place.
* `Doc`: the document; `Json.toDoc` is the document of a value in memory.
-/

namespace Rollout

/-- What is wrong with the text of a document. -/
inductive TextFault
  | endInValue
  | endInList
  | endInObject
  | endInString
  | expectedValue
  | expectedWord
  | expectedColon
  | expectedCommaOrBracket
  | expectedCommaOrBrace
  | invalidNumber
  | numberOutOfRange
  | keyNotString
  | trailingComma
  | trailingCharacters
  | controlCharacter
  | invalidEscape
  | loneSurrogate
  | endOfHexEscape
  | tooDeep
deriving DecidableEq, Repr, Inhabited

namespace TextFault

def message : TextFault → String
  | endInValue => "EOF while parsing a value"
  | endInList => "EOF while parsing a list"
  | endInObject => "EOF while parsing an object"
  | endInString => "EOF while parsing a string"
  | expectedValue => "expected value"
  | expectedWord => "expected ident"
  | expectedColon => "expected `:`"
  | expectedCommaOrBracket => "expected `,` or `]`"
  | expectedCommaOrBrace => "expected `,` or `\x7d`"
  | invalidNumber => "invalid number"
  | numberOutOfRange => "number out of range"
  | keyNotString => "key must be a string"
  | trailingComma => "trailing comma"
  | trailingCharacters => "trailing characters"
  | controlCharacter => "control character (\\u0000-\\u001F) found while parsing a string"
  | invalidEscape => "invalid escape"
  | loneSurrogate => "lone leading surrogate in hex escape"
  | endOfHexEscape => "unexpected end of hex escape"
  | tooDeep => "recursion limit exceeded"

end TextFault

/-- A fault at a place, and the fault found there by a reader who only looks for the end of the value. -/
structure Flaw where
  seen : TextFault
  skipped : Option TextFault
deriving DecidableEq, Repr, Inhabited

/-- A flaw that stops every reader. -/
def Flaw.hard (fault : TextFault) : Flaw := ⟨fault, some fault⟩

/-- A flaw that a skipping reader passes. -/
def Flaw.soft (fault : TextFault) : Flaw := ⟨fault, none⟩

/-- How a scalar of a configuration file is written: without quotes, as a block that keeps its lines, or in any other
way. -/
inductive Style
  | plain
  | literal
  | other
deriving DecidableEq, Repr, Inhabited

/-- What a node of a configuration file is marked with. -/
inductive Tag
  /-- A tag of the file's own. -/
  | own (name : String)
  /-- A tag of the file's own whose name is no text. -/
  | unreadable
  | integer
  | fraction
  | truth
  | nothing
  /-- Any other tag, which makes a scalar a text. -/
  | foreign
deriving DecidableEq, Repr, Inhabited

/-- A document as it was read.  The key of a member is a document as well. -/
inductive Doc
  | null
  | bool (value : Bool)
  | num (value : Number)
  | str (value : String)
  /-- A scalar of a configuration file, whose kind depends on what is asked of it. -/
  | scalar (text : String) (style : Style) (tag : Option Tag)
  | seq (items : List Doc) (stop : Option Flaw)
  | map (members : List (Doc × Doc)) (stop : Option Flaw)
  /-- A list or mapping marked with a tag of the file's own. -/
  | tagged (name : String) (body : Doc)
  /-- A node that stands elsewhere in the file. -/
  | alias (node : Nat)
  /-- The place of a value that could not be read. -/
  | broken (flaw : Flaw)
deriving Repr, Inhabited

/-- Where a document comes from: a value in memory, text of the exchange format, or a configuration file. -/
inductive Origin
  | value
  | text
  | file
deriving DecidableEq, Repr, Inhabited

/-- The list or mapping under a tag. -/
def Doc.bare : Doc → Doc
  | .tagged _ body => body.bare
  | doc => doc

namespace Json

mutual

/-- A value in memory as a document. -/
def toDoc : Json → Doc
  | null => .null
  | bool b => .bool b
  | num n => .num n
  | str s => .str s
  | arr items => .seq (itemsToDocs items) none
  | obj members => .map (membersToDocs members) none

/-- The documents of items. -/
def itemsToDocs : List Json → List Doc
  | [] => []
  | a :: as => toDoc a :: itemsToDocs as

/-- The documents of members. -/
def membersToDocs : List (String × Json) → List (Doc × Doc)
  | [] => []
  | (k, a) :: as => (.str k, toDoc a) :: membersToDocs as

/-- How many lists and objects stand inside one another. -/
def depth : Json → Nat
  | arr items => depthOfItems items + 1
  | obj members => depthOfMembers members + 1
  | _ => 0

/-- The greatest depth of items. -/
def depthOfItems : List Json → Nat
  | [] => 0
  | a :: as => max (depth a) (depthOfItems as)

/-- The greatest depth of members. -/
def depthOfMembers : List (String × Json) → Nat
  | [] => 0
  | (_, a) :: as => max (depth a) (depthOfMembers as)

end

end Json

end Rollout
