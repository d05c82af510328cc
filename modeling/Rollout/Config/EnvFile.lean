import Rollout.Table
import Rollout.Text.Alphanumeric
import Rollout.Text.Blank
import Rollout.Text.Search

/-!
# Rollout.Config.EnvFile — files of environment variables

A file of environment variables holds assignments `NAME=value`, one a line, and comments after `#`.  A value may be
quoted, and a quoted value may run over several lines; outside single quotes `$NAME` and `${NAME}` stand for other
variables.

* `EnvFile.entries`: the lines of the file, each with the lines that an open quote joins to it.
* `EnvFile.assignment`: the name and the value text of a line.
* `EnvFile.value`: what a value text stands for.
* `EnvFile.load`: adds the assignments to an environment; variables that are set stay as they are.
-/

namespace Rollout.EnvFile

/-- A text that cannot be read, and the place in it. -/
structure Refusal where
  text : List Char
  index : Nat
deriving DecidableEq, Repr, Inhabited

def Refusal.message (r : Refusal) : String :=
  "Error parsing line: '" ++ String.ofList r.text ++ "', error at line index: " ++ toString r.index

/-- How many octets a text takes. -/
def octets (cs : List Char) : Nat := (String.ofList cs).utf8ByteSize

/-! ## Entries -/

/-- What the characters read so far leave open at the end of a line. -/
inductive Open
  | nothing
  | blank
  | escape
  | single
  | singleEscape
  | double
  | doubleEscape
deriving DecidableEq, Repr, Inhabited

/-- What is open after one more character. -/
def Open.next (o : Open) (c : Char) : Open :=
  let begun : Open :=
    if c = '\\' then escape else if c = '"' then double else if c = '\'' then single else nothing
  match o with
  | nothing => if Text.isBlankChar c ∧ c ≠ '\n' ∧ c ≠ '\r' then blank else begun
  | blank => begun
  | escape => nothing
  | single => if c = '\\' then singleEscape else if c = '\'' then nothing else single
  | singleEscape => single
  | double => if c = '\\' then doubleEscape else if c = '"' then nothing else double
  | doubleEscape => double

/-- The characters before a comment, and what is open at the end if there is none. -/
def untilComment : Open → List Char → List Char × Option Open
  | o, [] => ([], some o)
  | o, c :: cs =>
    if o = .blank ∧ c = '#' then ([], none)
    else
      let (kept, ending) := untilComment (o.next c) cs
      (c :: kept, ending)

/-- A line without its end. -/
def chomp (cs : List Char) : List Char :=
  match cs.reverse with
  | '\n' :: '\r' :: rest => rest.reverse
  | '\n' :: rest => rest.reverse
  | _ => cs

/-- Joins lines, with their ends, to entries; an entry that is still open after the last line is refused. -/
def gather (seen : List Char) (o : Open) : List (List Char) → List (Except Refusal (List Char))
  | [] => if o = .nothing then [] else [.error ⟨seen, octets seen⟩]
  | line :: rest =>
    let whole := seen ++ line
    if (Text.dropBlanks whole).head? = some '#' then .ok [] :: gather [] .nothing rest
    else match untilComment o line with
      | (kept, none) => .ok (seen ++ kept) :: gather [] .nothing rest
      | (_, some .nothing) => .ok (chomp whole) :: gather [] .nothing rest
      | (_, some o) => gather whole o rest

/-- Puts the ends of lines back that splitting took away; nothing follows the last one. -/
def withEnds : List (List Char) → List (List Char)
  | [] => []
  | [last] => if last = [] then [] else [last]
  | line :: rest => (line ++ ['\n']) :: withEnds rest

/-- The entries of a file; a byte order mark in front does not count. -/
def entries (text : String) : List (Except Refusal (List Char)) :=
  let cs := if text.toList.head? = some '\uFEFF' then text.toList.drop 1 else text.toList
  gather [] .nothing (withEnds (Text.splitAt '\n' cs))

/-! ## Assignments -/

def isNameStart (c : Char) : Bool := c.isAlpha || c = '_'

def isNameChar (c : Char) : Bool := c.isAlphanum || c = '_' || c = '.'

/-- A name and what follows it, blanks left out. -/
def name? (cs : List Char) : Option (List Char × List Char) :=
  if cs.head?.any isNameStart then some (cs.takeWhile isNameChar, Text.dropBlanks (cs.dropWhile isNameChar))
  else none

/-- The name and the value text of an entry; none for an entry that is empty or a comment. -/
def assignment (entry : List Char) : Except Refusal (Option (String × List Char)) :=
  let trimmed := Text.dropBlanksEnd entry
  let refuse (rest : List Char) : Except Refusal (Option (String × List Char)) :=
    .error ⟨entry, octets trimmed - octets rest⟩
  let valueOf (name rest : List Char) : Except Refusal (Option (String × List Char)) :=
    match rest with
    | '=' :: value => .ok (some (String.ofList name, Text.dropBlanks value))
    | _ => refuse rest
  let start := Text.dropBlanks trimmed
  if start = [] ∨ start.head? = some '#' then .ok none
  else match name? start with
    | none => refuse start
    | some (name, rest) =>
      if name = "export".toList ∧ rest.head? ≠ some '=' then
        match name? rest with
        | none => refuse rest
        | some (name, rest) => valueOf name rest
      else valueOf name rest

/-! ## Values -/

/-- Where in a value text one is. -/
inductive Place
  | plain
  | escaped
  | single
  /-- In the name of a variable, the characters of it reversed. -/
  | name (read : List Char)
  | braced (read : List Char)
  | ended
deriving DecidableEq, Repr, Inhabited

/-- The character that an escaped one stands for. -/
def unescape? (c : Char) : Option Char :=
  if c = 'n' then some '\n'
  else if c = '\\' ∨ c = '\'' ∨ c = '"' ∨ c = '$' ∨ c = ' ' then some c
  else none

/-- Reads a value text on.  `double` tells whether a double quote is open, `out` is what was read, reversed, and
`index` counts the characters. -/
def valueFrom (lookup : String → String) (whole : List Char) (place : Place) (double : Bool) (out : List Char)
    (index : Nat) : List Char → Except Refusal String
  | [] =>
    let unfinished := match place with
      | .braced _ => true
      | .single => true
      | _ => double
    if unfinished then .error ⟨whole, octets whole - 1⟩
    else match place with
      | .name read => .ok (String.ofList out.reverse ++ lookup (String.ofList read.reverse))
      | _ => .ok (String.ofList out.reverse)
  | c :: rest =>
    let on (place : Place) (double : Bool) (out : List Char) : Except Refusal String :=
      valueFrom lookup whole place double out (index + 1) rest
    let named (read : List Char) : List Char := (lookup (String.ofList read.reverse)).toList.reverse ++ out
    match place with
    | .ended =>
      if c = ' ' ∨ c = '\t' then on .ended double out
      else if c = '#' then .ok (String.ofList out.reverse)
      else .error ⟨whole, index⟩
    | .escaped => match unescape? c with
      | some c => on .plain double (c :: out)
      | none => .error ⟨whole, index⟩
    | .single => if c = '\'' then on .plain double out else on .single double (c :: out)
    | .name read =>
      if Text.isAlphanumeric c then on (.name (c :: read)) double out
      else if c = '\x7b' ∧ read = [] then on (.braced []) double out
      else if c = '$' then on (.name []) double (named read)
      else on .plain double (c :: named read)
    | .braced read =>
      if c = '\x7d' then on .plain double (named read) else on (.braced (c :: read)) double out
    | .plain =>
      if c = '$' then on (.name []) double out
      else if c = '\\' then on .escaped double out
      else if c = '"' then on .plain (!double) out
      else if double then on .plain double (c :: out)
      else if c = '\'' then on .single double out
      else if c = ' ' ∨ c = '\t' then on .ended double out
      else on .plain double (c :: out)

/-- What a value text stands for, when `lookup` gives the values of variables. -/
def value (lookup : String → String) (text : List Char) : Except Refusal String :=
  valueFrom lookup text .plain false [] 0 text

/-! ## The environment -/

/-- Adds entries to an environment, up to the first that is refused; `known` holds what the file has assigned. -/
def extend (env known : Table String) : List (Except Refusal (List Char)) → Table String × Except Refusal Unit
  | [] => (env, .ok ())
  | .error r :: _ => (env, .error r)
  | .ok entry :: rest =>
    match assignment entry with
    | .error r => (env, .error r)
    | .ok none => extend env known rest
    | .ok (some (name, text)) =>
      let lookup (n : String) : String := ((env.get? n).or (known.get? n)).getD ""
      let read := if text.head? = some '#' then .ok "" else value lookup text
      match read with
      | .error r => (env, .error r)
      | .ok v => extend (if env.contains name then env else env.insert name v) (known.insert name v) rest

/-- Adds the assignments of a file to an environment. -/
def load (text : String) (env : Table String) : Table String × Except Refusal Unit :=
  extend env Table.empty (entries text)

end Rollout.EnvFile
