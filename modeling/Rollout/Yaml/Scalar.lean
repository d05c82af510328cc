import Rollout.Text.Digit
import Rollout.Yaml.Token

/-!
# Rollout.Yaml.Scalar — reading scalars

The four ways to write a scalar: plain, between single or double quotes, and as a block with its line breaks kept
or folded.  Each reader takes the place where the scalar begins and yields its text and the place after it.

* `readQuoted`: doubled single quotes, escapes between double quotes, folded line breaks.
* `readPlain`: ends at `: `, ` #`, less indentation and, inside brackets, at a bracket or comma.
* `readBlock`: indentation found or given, breaks at the end kept, clipped or stripped.
-/

namespace Rollout.Yaml

/-- Blank text gathered between two words: on one line, or the first break and those after it. -/
inductive Gap
  | blanks (text : List Char)
  | breaks (first : List Char) (further : List Char)

/-- What a gap stands for inside a scalar: one break is a space, further breaks stand for themselves. -/
def Gap.text : Gap → List Char
  | .blanks text => text
  | .breaks ['\n'] [] => [' ']
  | .breaks ['\n'] further => further
  | .breaks first further => first ++ further

/-- Takes in blanks and breaks; `floor` is the column below which a tab is refused. -/
def readGap (fuel : Nat) (floor : Option Nat) (gap : Gap) (c : Cursor) : Option (Gap × Cursor) :=
  match fuel, c.rest with
  | 0, _ => some (gap, c)
  | _, [] => some (gap, c)
  | fuel + 1, x :: _ =>
    if isBlank x then
      match gap with
      | .blanks text => readGap fuel floor (.blanks (text ++ [x])) c.advance
      | .breaks .. =>
        if x = '\t' && floor.any (c.column < ·) then none else readGap fuel floor gap c.advance
    else if isBreak x then
      let (text, c) := c.takeBreak
      match gap with
      | .blanks _ => readGap fuel floor (.breaks text []) c
      | .breaks first further => readGap fuel floor (.breaks first (further ++ text)) c
    else some (gap, c)

/-- The character of a one-letter escape between double quotes. -/
def escape? (c : Char) : Option Char :=
  match c with
  | '0' => some (Char.ofNat 0)
  | 'a' => some (Char.ofNat 7)
  | 'b' => some (Char.ofNat 8)
  | 't' => some '\t'
  | '\t' => some '\t'
  | 'n' => some '\n'
  | 'v' => some (Char.ofNat 11)
  | 'f' => some (Char.ofNat 12)
  | 'r' => some '\r'
  | 'e' => some (Char.ofNat 27)
  | ' ' => some ' '
  | '"' => some '"'
  | '/' => some '/'
  | '\\' => some '\\'
  | 'N' => some (Char.ofNat 0x85)
  | '_' => some (Char.ofNat 0xA0)
  | 'L' => some (Char.ofNat 0x2028)
  | 'P' => some (Char.ofNat 0x2029)
  | _ => none

/-- The number of digits of an escape by number. -/
def escapeDigits? (c : Char) : Option Nat :=
  if c = 'x' then some 2 else if c = 'u' then some 4 else if c = 'U' then some 8 else none

/-- The character of so many hexadecimal digits. -/
def readCode (count : Nat) (cs : List Char) : Option Char := do
  let digits := cs.take count
  if digits.length ≠ count then none
  let n ← Text.digits? 16 digits
  if (0xD800 ≤ n ∧ n ≤ 0xDFFF) ∨ 0x10FFFF < n then none else some (Char.ofNat n)

/-- Reads a scalar after its opening quote; `text` is what was read so far, last character first. -/
def readQuoted (fuel : Nat) (single : Bool) (text : List Char) (c : Cursor) : Option (List Char × Cursor) :=
  match fuel with
  | 0 => none
  | fuel + 1 =>
    if c.atDocument then none
    else match c.rest with
      | [] => none
      | x :: rest =>
        if isBlank x || isBreak x then do
          let (gap, c) ← readGap c.rest.length none (.blanks []) c
          readQuoted fuel single (gap.text.reverse ++ text) c
        else if single then
          if x = '\'' then
            match rest with
            | '\'' :: _ => readQuoted fuel single ('\'' :: text) (c.skip 2)
            | _ => some (text.reverse, c.advance)
          else readQuoted fuel single (x :: text) c.advance
        else if x = '"' then some (text.reverse, c.advance)
        else if x = '\\' then
          match rest with
          | [] => none
          | e :: digits =>
            if isBreak e then do
              let (_, c) := c.advance.takeBreak
              let (gap, c) ← readGap c.rest.length none (.breaks [] []) c
              readQuoted fuel single (gap.text.reverse ++ text) c
            else match escape? e, escapeDigits? e with
              | some x, _ => readQuoted fuel single (x :: text) (c.skip 2)
              | none, some count => do
                let x ← readCode count digits
                readQuoted fuel single (x :: text) (c.skip (2 + count))
              | none, none => none
        else readQuoted fuel single (x :: text) c.advance

/-- A bracket or a comma. -/
def isFlowMark (c : Char) : Bool := c = ',' || c = '[' || c = ']' || c = '\x7b' || c = '\x7d'

/-- Whether a plain scalar ends before the next character, which is no blank. -/
def endsPlain (flow : Bool) (c : Cursor) : Bool :=
  match c.rest with
  | [] => true
  | x :: _ => (x = ':' && c.gapAt 1) || (flow && isFlowMark x)

/-- A colon right before a bracket, which cannot be part of a plain scalar. -/
def strayColon (flow : Bool) (c : Cursor) : Bool :=
  flow && c.next (· = ':') && (c.rest[1]?).any fun x => isFlowMark x || x = '?'

/-- Reads one run of characters without blanks. -/
def readWord (fuel : Nat) (flow : Bool) (word : List Char) (c : Cursor) : Option (List Char × Cursor) :=
  match fuel with
  | 0 => some (word, c)
  | fuel + 1 =>
    if c.gapAt 0 then some (word, c)
    else if strayColon flow c then none
    else if endsPlain flow c then some (word, c)
    else match c.rest with
      | [] => some (word, c)
      | x :: _ => readWord fuel flow (x :: word) c.advance

/-- Reads a plain scalar; `floor` is the least column of its further lines.  The flag tells whether a line
break follows it. -/
def readPlain (fuel : Nat) (flow : Bool) (floor : Nat) (gap : Gap) (text : List Char) (c : Cursor) :
    Option (List Char × Bool × Cursor) :=
  let broken : Bool := match gap with
    | .blanks _ => false
    | .breaks .. => true
  match fuel with
  | 0 => some (text.reverse, broken, c)
  | fuel + 1 =>
    if c.atDocument || c.next (· = '#') then some (text.reverse, broken, c)
    else do
      let (word, after) ← readWord c.rest.length flow [] c
      let text := if word = [] then text else word ++ (gap.text.reverse ++ text)
      let broken := broken && word = []
      if !(after.next fun x => isBlank x || isBreak x) then some (text.reverse, broken, after)
      else
        let start : Gap := if word = [] then gap else .blanks []
        let (gap, after) ← readGap after.rest.length (some floor) start after
        if !flow && after.column < floor then
          some (text.reverse, match gap with
            | .blanks _ => false
            | .breaks .. => true, after)
        else readPlain fuel flow floor gap text after

/-! ## Block scalars -/

/-- What becomes of the line breaks at the end. -/
inductive Chomp
  | strip
  | clip
  | keep
deriving DecidableEq

/-- The marks after the sign of a block scalar: the fate of the last breaks and the indentation. -/
def readHeader (c : Cursor) : Option (Chomp × Option Nat × Cursor) :=
  let chomp? (x : Char) : Option Chomp := if x = '+' then some .keep else if x = '-' then some .strip else none
  match c.rest with
  | a :: rest =>
    match chomp? a, Text.digit? 10 a with
    | some chomp, _ =>
      match rest.head?.bind (Text.digit? 10) with
      | some 0 => none
      | some n => some (chomp, some n, c.skip 2)
      | none => some (chomp, none, c.advance)
    | none, some 0 => none
    | none, some n =>
      match rest.head?.bind chomp? with
      | some chomp => some (chomp, some n, c.skip 2)
      | none => some (.clip, some n, c.advance)
    | none, none => some (.clip, none, c)
  | [] => some (.clip, none, c)

/-- Takes in empty lines and the indentation after them; with no indentation given, yields the greatest seen. -/
def readBreaks (fuel : Nat) (indent : Option Nat) (widest : Nat) (breaks : List Char) (c : Cursor) :
    Option (Nat × List Char × Cursor) :=
  match fuel with
  | 0 => some (widest, breaks, c)
  | fuel + 1 =>
    let room := match indent with
      | some n => n - c.column
      | none => c.rest.length
    let spaces := (c.rest.take room).takeWhile (· = ' ')
    let c := c.skip spaces.length
    let widest := max widest c.column
    let inside := match indent with
      | some n => c.column < n
      | none => true
    if inside && c.next (· = '\t') then none
    else if c.next isBreak then
      let (text, c) := c.takeBreak
      readBreaks fuel indent widest (breaks ++ text) c
    else some (widest, breaks, c)

/-- Reads the lines of a block scalar; `lead` is the break before the current line, `breaks` the empty lines
after it, `indented` tells whether the line before began with a blank. -/
def readLines (fuel : Nat) (literal : Bool) (chomp : Chomp) (indent : Nat) (indented : Bool)
    (lead breaks text : List Char) (c : Cursor) : Option (List Char × Cursor) :=
  let done : List Char :=
    let text := if chomp = .strip then text else text ++ lead
    if chomp = .keep then text ++ breaks else text
  match fuel with
  | 0 => some (done, c)
  | fuel + 1 =>
    if c.column = indent && c.rest ≠ [] then do
      let blank := c.next isBlank
      let glue :=
        if !literal && lead = ['\n'] && !indented && !blank then (if breaks = [] then [' '] else []) else lead
      let (line, c) := c.takeWhile fun x => !isBreak x
      let text := text ++ glue ++ breaks ++ line
      let (lead, c) := c.takeBreak
      let (_, breaks, c) ← readBreaks c.rest.length.succ (some indent) 0 [] c
      readLines fuel literal chomp indent blank lead breaks text c
    else some (done, c)

/-- Reads a block scalar after its sign; `parent` is the indentation around it, none at the top. -/
def readBlock (literal : Bool) (parent : Option Nat) (c : Cursor) : Option (List Char × Cursor) := do
  let (chomp, given, c) ← readHeader c
  let c := c.dropWhile isBlank
  let c := if c.next (· = '#') then c.dropWhile (fun x => !isBreak x) else c
  if !(c.rest = [] || c.next isBreak) then none
  let (_, c) := c.takeBreak
  let indent := given.map fun n => match parent with
    | some p => p + n
    | none => n
  let (widest, breaks, c) ← readBreaks c.rest.length.succ indent 0 [] c
  let least := match parent with
    | some p => p + 1
    | none => 0
  let indent := indent.getD (max (max widest least) 1)
  readLines c.rest.length.succ literal chomp indent false [] breaks [] c

end Rollout.Yaml
