import Rollout.Text.Utf8
import Rollout.Yaml.Scalar

/-!
# Rollout.Yaml.Scan — from text to tokens

The scanner keeps the columns of the open blocks and, for each open bracket, the place where a key may have begun.
A colon turns that place into a key; less indentation closes blocks.

* `Scanner`: the state between two tokens.
* `Scanner.step?`: takes in the next token; none where the text is refused.
* `Token.ofText?`: all tokens of a text.
-/

namespace Rollout.Yaml

/-- A place where a key may have begun. -/
structure Candidate where
  slot : Nat
  required : Bool
  line : Nat
  column : Nat
  index : Nat
deriving Repr, Inhabited

/-- The state between two tokens; tokens are kept last one first, the place of a key per open bracket. -/
structure Scanner where
  cursor : Cursor
  tokens : List Token
  slots : Nat
  indents : List Nat
  candidate : Option Candidate
  outer : List (Option Candidate)
  keyAllowed : Bool
deriving Inhabited

namespace Scanner

def ofText (cs : List Char) : Scanner := ⟨.ofText cs, [], 0, [], none, [], true⟩

/-- Whether a bracket is open. -/
def inFlow (s : Scanner) : Bool := !s.outer.isEmpty

/-- The column of the innermost open block. -/
def indent? (s : Scanner) : Option Nat := s.indents.head?

/-- Closes the blocks that stand right of a column; all of them without one. -/
def closeBlocks (column : Option Nat) (s : Scanner) : Scanner :=
  if s.inFlow then s
  else
    let deeper := s.indents.takeWhile fun i => match column with
      | some c => c < i
      | none => true
    { s with
      indents := s.indents.drop deeper.length
      tokens := List.replicate deeper.length .blockEnd ++ s.tokens }

/-- Whether a block at a column opens here. -/
def opens (s : Scanner) (column : Nat) : Bool :=
  !s.inFlow && match s.indent? with
    | some i => i < column
    | none => true

/-- Opens a block at a column if it is deeper than the blocks around it. -/
def openBlock (column : Nat) (mark : Token) (s : Scanner) : Scanner :=
  if s.opens column then { s with indents := column :: s.indents, tokens := mark :: s.tokens } else s

/-- Gives up the place of a key; none if a key had to be there. -/
def dropCandidate? (s : Scanner) : Option Scanner :=
  if s.candidate.any (·.required) then none else some { s with candidate := none }

/-- A key begins at most 1024 characters before its colon, and on the same line. -/
def isStale (c : Cursor) (k : Candidate) : Bool := k.line < c.line || k.index + 1024 < c.index

/-- Gives up the places from which no key can begin any more. -/
def dropStale? (s : Scanner) : Option Scanner :=
  let stale (k : Option Candidate) : Bool := k.any (isStale s.cursor)
  let lost (k : Option Candidate) : Bool := k.any fun k => isStale s.cursor k && k.required
  if lost s.candidate || s.outer.any lost then none
  else some { s with
    candidate := if stale s.candidate then none else s.candidate
    outer := s.outer.map fun k => if stale k then none else k }

/-- Remembers this place as one where a key may begin. -/
def saveCandidate? (s : Scanner) : Option Scanner :=
  if s.keyAllowed then do
    let required := !s.inFlow && s.indent? = some s.cursor.column
    let s ← s.dropCandidate?
    some { s with
      candidate := some ⟨s.slots, required, s.cursor.line, s.cursor.column, s.cursor.index⟩
      tokens := .slot s.slots :: s.tokens
      slots := s.slots + 1 }
  else some s

/-- Past blanks, comments and line breaks; a byte order mark may begin a line. -/
def skipGap (fuel : Nat) (s : Scanner) : Scanner :=
  match fuel with
  | 0 => s
  | fuel + 1 =>
    let c := if s.cursor.column = 0 && s.cursor.next (·.toNat = 0xFEFF) then s.cursor.advance else s.cursor
    let c := c.dropWhile fun x => x = ' ' || (x = '\t' && (s.inFlow || !s.keyAllowed))
    let c := if c.next (· = '#') then c.dropWhile (fun x => !isBreak x) else c
    if c.next isBreak then
      skipGap fuel { s with cursor := c.takeBreak.2, keyAllowed := s.keyAllowed || !s.inFlow }
    else { s with cursor := c }

def isNameChar (c : Char) : Bool :=
  ('0' ≤ c && c ≤ '9') || ('a' ≤ c && c ≤ 'z') || ('A' ≤ c && c ≤ 'Z') || c = '_' || c = '-'

/-- The name after an anchor or alias sign. -/
def readName? (c : Cursor) : Option (String × Cursor) :=
  let (name, c) := c.takeWhile isNameChar
  if name = [] then none
  else if c.gapAt 0 || c.next (fun x => ['?', ':', ',', ']', '\x7d', '%', '@', '\x60'].contains x) then
    some (String.ofList name, c)
  else none

def isUriChar (c : Char) : Bool :=
  isNameChar c || [';', '/', '?', ':', '@', '&', '=', '+', '$', '.', '!', '~', '*', '\'', '(', ')', '%'].contains c

def isFlowUriChar (c : Char) : Bool := isUriChar c || c = ',' || c = '[' || c = ']'

/-- How many octets a character has whose first one this is. -/
def octetWidth? (b : UInt8) : Option Nat :=
  if b < 0x80 then some 1
  else if 0xC0 ≤ b && b < 0xE0 then some 2
  else if 0xE0 ≤ b && b < 0xF0 then some 3
  else if 0xF0 ≤ b && b < 0xF8 then some 4
  else none

/-- An octet written as a percent sign and two digits. -/
def readOctet? (c : Cursor) : Option (UInt8 × Cursor) :=
  match c.rest with
  | '%' :: digits => (Text.digits? 16 (digits.take 2)).bind fun n =>
    if 2 ≤ digits.length then some (n.toUInt8, c.skip 3) else none
  | _ => none

/-- The octets of one character written by number. -/
def readOctets? (c : Cursor) : Option (List UInt8 × Cursor) := do
  let (lead, c) ← readOctet? c
  let rec more (owed : Nat) (c : Cursor) : Option (List UInt8 × Cursor) :=
    match owed with
    | 0 => some ([], c)
    | owed + 1 => do
      let (b, c) ← readOctet? c
      if b < 0x80 || 0xC0 ≤ b then none
      let (bs, c) ← more owed c
      return (b :: bs, c)
  let (bs, c) ← more ((← octetWidth? lead) - 1) c
  return (lead :: bs, c)

/-- The octets of an identifier up to the first character that fails `p`. -/
def readUri? (fuel : Nat) (p : Char → Bool) (c : Cursor) : Option (List UInt8 × Cursor) :=
  match fuel with
  | 0 => some ([], c)
  | fuel + 1 =>
    match c.rest with
    | [] => some ([], c)
    | x :: _ =>
      if !p x then some ([], c)
      else do
        let (bs, c) ← if x = '%' then readOctets? c else some (Text.encodeChar x, c.advance)
        let (more, c) ← readUri? fuel p c
        return (bs ++ more, c)

/-- An identifier of at least one character. -/
def readSomeUri? (p : Char → Bool) (c : Cursor) : Option (List UInt8 × Cursor) :=
  if c.next p then readUri? c.rest.length p c else none

/-- The handle and the rest of a tag, from its first sign.  A tag of one sign alone has no handle. -/
def readTag? (flow : Bool) (c : Cursor) : Option (String × List UInt8 × Cursor) := do
  let c := c.advance
  let (handle, suffix, c) ←
    if c.next (· = '<') then do
      let (uri, c) ← readSomeUri? isFlowUriChar c.advance
      if c.next (· = '>') then some ("", uri, c.advance) else none
    else
      let (word, after) := c.takeWhile isNameChar
      if after.next (· = '!') then do
        let (suffix, rest) ← readSomeUri? isUriChar after.advance
        some ("!" ++ String.ofList word ++ "!", suffix, rest)
      else do
        let (suffix, rest) ← readUri? c.rest.length isUriChar c
        if suffix.head?.all (· = 0) then some ("", Text.encode "!", rest) else some ("!", suffix, rest)
  if c.gapAt 0 || (flow && c.next (· = ',')) then some (handle, suffix, c) else none

/-- A directive line, from its percent sign. -/
def readDirective? (c : Cursor) : Option (Option Token × Cursor) := do
  let (name, c) := c.advance.takeWhile isNameChar
  if name = [] || !c.gapAt 0 then none
  let c := c.dropWhile isBlank
  let finish (c : Cursor) : Option Cursor :=
    let c := c.dropWhile isBlank
    let c := if c.next (· = '#') then c.dropWhile (fun x => !isBreak x) else c
    if c.rest = [] then some c else if c.next isBreak then some c.takeBreak.2 else none
  if name = "YAML".toList then
    let (major, c) := c.takeWhile Char.isDigit
    if major = [] || 9 < major.length || !(c.next (· = '.')) then none
    let (minor, c) := c.advance.takeWhile Char.isDigit
    if minor = [] || 9 < minor.length then none
    let c ← finish c
    let number (digits : List Char) : Option Nat := Text.digits? 10 digits
    some (some (.versionDirective (number major = some 1 && (number minor = some 1 || number minor = some 2))), c)
  else if name = "TAG".toList then
    if !(c.next (· = '!')) then none
    let (word, c) := c.advance.takeWhile isNameChar
    let (handle, c) := if c.next (· = '!') then ("!" ++ String.ofList word ++ "!", c.advance)
      else ("!" ++ String.ofList word, c)
    if !(c.next isBlank) || handle.toList.getLast? ≠ some '!' then none
    let (uri, c) ← readSomeUri? isFlowUriChar (c.dropWhile isBlank)
    if !c.gapAt 0 then none
    let c ← finish c
    some (some (.tagDirective handle uri), c)
  else none

/-- Ends all blocks before a directive or a document mark. -/
def leaveDocument? (s : Scanner) : Option Scanner := do
  let s ← (s.closeBlocks none).dropCandidate?
  some { s with keyAllowed := false }

/-- Fills the place of a key with a token, or with an opening mark and the token. -/
def fillSlot (number : Nat) (filling : List Token) (tokens : List Token) : List Token :=
  tokens.flatMap fun t => if t = .slot number then filling else [t]

/-- A colon: the key before it, if there is one, and the value. -/
def readColon? (s : Scanner) : Option Scanner :=
  let finish (s : Scanner) : Scanner := { s with cursor := s.cursor.advance, tokens := .value :: s.tokens }
  match s.candidate with
  | some k =>
    let opened := s.opens k.column
    let filling := if opened then [Token.key, .blockMappingStart] else [Token.key]
    some (finish { s with
      tokens := fillSlot k.slot filling s.tokens
      indents := if opened then k.column :: s.indents else s.indents
      candidate := none
      keyAllowed := false })
  | none =>
    if s.inFlow then some (finish { s with keyAllowed := false })
    else if !s.keyAllowed then none
    else some (finish { s.openBlock s.cursor.column .blockMappingStart with keyAllowed := true })

/-- Whether a plain scalar may begin at the next character. -/
def startsPlain (s : Scanner) : Bool :=
  let c := s.cursor
  let marks := ['-', '?', ':', ',', '[', ']', '\x7b', '\x7d', '#', '&', '*', '!', '|', '>', '\'', '"', '%', '@', '\x60']
  match c.rest with
  | [] => false
  | x :: _ =>
    !(c.gapAt 0 || marks.contains x) || (x = '-' && !((c.rest[1]?).any isBlank)) ||
      (!s.inFlow && (x = '?' || x = ':') && !c.gapAt 1)

/-- Reads a scalar by a reader for its text. -/
def readScalar? (s : Scanner) : Option Scanner := do
  let x ← s.cursor.head?
  let fuel := s.cursor.rest.length + 1
  if (x = '|' || x = '>') && !s.inFlow then
    let s ← s.dropCandidate?
    let (text, c) ← readBlock (x = '|') s.indent? s.cursor.advance
    let style := if x = '|' then Style.literal else .other
    some { s with cursor := c, tokens := .scalar (String.ofList text) style :: s.tokens, keyAllowed := true }
  else if x = '\'' || x = '"' then
    let s ← s.saveCandidate?
    let (text, c) ← readQuoted fuel (x = '\'') [] s.cursor.advance
    some { s with cursor := c, tokens := .scalar (String.ofList text) .other :: s.tokens, keyAllowed := false }
  else if s.startsPlain then
    let s ← s.saveCandidate?
    let floor := match s.indent? with
      | some i => i + 1
      | none => 0
    let (text, broken, c) ← readPlain fuel s.inFlow floor (.blanks []) [] s.cursor
    some { s with cursor := c, tokens := .scalar (String.ofList text) .plain :: s.tokens, keyAllowed := broken }
  else none

/-- Takes in a bracket, a comma or the sign of an entry, key or value. -/
def readMark? (s : Scanner) (x : Char) : Option Scanner := do
  let c := s.cursor
  if x = '[' || x = '\x7b' then
    let s ← s.saveCandidate?
    some { s with
      cursor := c.advance
      tokens := (if x = '[' then .flowSequenceStart else .flowMappingStart) :: s.tokens
      outer := s.candidate :: s.outer
      candidate := none
      keyAllowed := true }
  else if x = ']' || x = '\x7d' then
    let s ← s.dropCandidate?
    some { s with
      cursor := c.advance
      tokens := (if x = ']' then .flowSequenceEnd else .flowMappingEnd) :: s.tokens
      candidate := s.outer.head?.join
      outer := s.outer.tail
      keyAllowed := false }
  else if x = ',' then
    let s ← s.dropCandidate?
    some { s with cursor := c.advance, tokens := .flowEntry :: s.tokens, keyAllowed := true }
  else if x = '-' then
    if !s.inFlow && !s.keyAllowed then none
    let s ← (s.openBlock c.column .blockSequenceStart).dropCandidate?
    some { s with cursor := c.advance, tokens := .blockEntry :: s.tokens, keyAllowed := true }
  else if x = '?' then
    if !s.inFlow && !s.keyAllowed then none
    let s ← (s.openBlock c.column .blockMappingStart).dropCandidate?
    some { s with cursor := c.advance, tokens := .key :: s.tokens, keyAllowed := !s.inFlow }
  else s.readColon?

/-- Whether a bracket, comma or sign stands here. -/
def atMark (s : Scanner) (x : Char) : Bool :=
  let c := s.cursor
  x = '[' || x = ']' || x = '\x7b' || x = '\x7d' || x = ',' || (x = '-' && c.gapAt 1) ||
    ((x = '?' || x = ':') && (s.inFlow || c.gapAt 1))

/-- Takes in the next token; `true` at the end of the text. -/
def step? (s : Scanner) : Option (Bool × Scanner) := do
  let s ← (s.skipGap (s.cursor.rest.length + 1)).dropStale?
  let s := s.closeBlocks (some s.cursor.column)
  let c := s.cursor
  match c.rest with
  | [] => return (true, ← s.leaveDocument?)
  | x :: _ =>
    if c.column = 0 && x = '%' then
      let s ← s.leaveDocument?
      let (token, c) ← readDirective? c
      return (false, { s with cursor := c, tokens := token.toList ++ s.tokens })
    else if c.atDocument then
      let s ← s.leaveDocument?
      let mark := if x = '-' then Token.documentStart else .documentEnd
      return (false, { s with cursor := c.skip 3, tokens := mark :: s.tokens })
    else if s.atMark x then return (false, ← s.readMark? x)
    else if x = '*' || x = '&' then
      let s ← s.saveCandidate?
      let (name, c) ← readName? c.advance
      let token := if x = '*' then Token.alias name else .anchor name
      return (false, { s with cursor := c, tokens := token :: s.tokens, keyAllowed := false })
    else if x = '!' then
      let s ← s.saveCandidate?
      let (handle, suffix, c) ← readTag? s.inFlow c
      return (false, { s with cursor := c, tokens := .tag handle suffix :: s.tokens, keyAllowed := false })
    else return (false, ← s.readScalar?)

/-- Runs to the end of the text. -/
def run? (fuel : Nat) (s : Scanner) : Option Scanner :=
  match fuel with
  | 0 => none
  | fuel + 1 => do
    let (done, s) ← s.step?
    if done then some s else run? fuel s

end Scanner

/-- Whether a character may stand in a configuration file. -/
def isAllowed (c : Char) : Bool :=
  let n := c.toNat
  n = 9 || n = 10 || n = 13 || (0x20 ≤ n && n ≤ 0x7E) || n = 0x85 || (0xA0 ≤ n && n ≤ 0xFFFD) || 0x10000 ≤ n

/-- The tokens of a text; none where it is refused. -/
def Token.ofText? (text : String) : Option (List Token) := do
  let cs := text.toList
  if !cs.all isAllowed then none
  let s ← (Scanner.ofText cs).run? (cs.length + 2)
  return (s.tokens.filter fun t => match t with
    | .slot _ => false
    | _ => true).reverse

end Rollout.Yaml
