import Rollout.Doc.Basic

/-!
# Rollout.Yaml.Token — the tokens of a configuration file

* `Token`: marks of structure and scalars.  A `slot` stands where a key would begin if a colon follows on the
  same line; it is filled in or dropped later.
* `Cursor`: what is left of the text with line and column.
-/

namespace Rollout.Yaml

/-- A token of a configuration file. -/
inductive Token
  | documentStart
  | documentEnd
  | versionDirective (supported : Bool)
  | tagDirective (handle : String) (uri : List UInt8)
  | blockSequenceStart
  | blockMappingStart
  | blockEnd
  | flowSequenceStart
  | flowSequenceEnd
  | flowMappingStart
  | flowMappingEnd
  | blockEntry
  | flowEntry
  | key
  | value
  | alias (name : String)
  | anchor (name : String)
  | tag (handle : String) (suffix : List UInt8)
  | scalar (text : String) (style : Style)
  | slot (number : Nat)
deriving DecidableEq, Repr, Inhabited

/-- What is left of the text, and where it stands. -/
structure Cursor where
  rest : List Char
  line : Nat
  column : Nat
  index : Nat
deriving Repr, Inhabited

/-- A line break. -/
def isBreak (c : Char) : Bool :=
  c = '\n' || c = '\r' || c.toNat = 0x85 || c.toNat = 0x2028 || c.toNat = 0x2029

/-- A space or a tab. -/
def isBlank (c : Char) : Bool := c = ' ' || c = '\t'

namespace Cursor

def ofText (cs : List Char) : Cursor := ⟨cs, 0, 0, 0⟩

def head? (c : Cursor) : Option Char := c.rest.head?

/-- Whether the next character satisfies `p`. -/
def next (c : Cursor) (p : Char → Bool) : Bool := c.rest.head?.any p

/-- Whether the text ends here or the character at an offset is a blank or a break. -/
def gapAt (c : Cursor) (offset : Nat) : Bool :=
  match c.rest[offset]? with
  | none => true
  | some x => isBlank x || isBreak x

/-- Past a character that is no line break. -/
def advance (c : Cursor) : Cursor :=
  match c.rest with
  | [] => c
  | _ :: rest => ⟨rest, c.line, c.column + 1, c.index + 1⟩

/-- Past `n` characters that are no line breaks. -/
def skip (c : Cursor) (n : Nat) : Cursor := ⟨c.rest.drop n, c.line, c.column + n, c.index + n⟩

/-- Past a line break, and the text it stands for. -/
def takeBreak (c : Cursor) : List Char × Cursor :=
  match c.rest with
  | '\r' :: '\n' :: rest => (['\n'], ⟨rest, c.line + 1, 0, c.index + 2⟩)
  | x :: rest =>
    let text := if x.toNat = 0x2028 || x.toNat = 0x2029 then [x] else ['\n']
    (text, ⟨rest, c.line + 1, 0, c.index + 1⟩)
  | [] => ([], c)

/-- The characters up to the first that fails `p`, none of them a break, and the place after them. -/
def takeWhile (c : Cursor) (p : Char → Bool) : List Char × Cursor :=
  let taken := c.rest.takeWhile p
  (taken, c.skip taken.length)

/-- Past the characters that satisfy `p`. -/
def dropWhile (c : Cursor) (p : Char → Bool) : Cursor := (c.takeWhile p).2

/-- Whether a document mark of three characters stands at the start of a line here. -/
def atMark (c : Cursor) (mark : Char) : Bool :=
  c.column = 0 && c.rest.take 3 = [mark, mark, mark] && c.gapAt 3

/-- Whether a document starts or ends here. -/
def atDocument (c : Cursor) : Bool := c.atMark '-' || c.atMark '.'

end Cursor

end Rollout.Yaml
