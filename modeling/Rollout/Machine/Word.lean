import Rollout.Text.Blank
import Rollout.Text.Digit

/-!
# Rollout.Machine.Word — the words of a script

A script is read as words and marks.  Words may be quoted, and they may hold parameters, sums and the output of other
scripts.

* `Shell.Part`: what a word is made of.
* `Shell.lexemes`: the words and marks of a script, each with its line.
* `Shell.wordOf`: a text that is one word whatever stands in it.
-/

namespace Rollout.Shell

/-- A part of a word; what is quoted is not split into fields. -/
inductive Part
  | text (cs : List Char) (quoted : Bool)
  /-- The value of a parameter, and how it is changed. -/
  | parameter (name : String) (change : List Char) (quoted : Bool)
  /-- How many characters the value of a parameter has. -/
  | extent (name : String)
  | output (script : List Char) (quoted : Bool)
  | sum (cs : List Char)
deriving DecidableEq, Repr, Inhabited

abbrev Word := List Part

inductive Token
  | word (parts : Word)
  | mark (text : String)
  /-- Connects a stream with what the next word names. -/
  | send (stream : Nat) (mode : String)
  /-- Gives a text to be read. -/
  | document (parts : Word)
  /-- Nothing can be read from here on. -/
  | broken (message : String)
deriving DecidableEq, Repr, Inhabited

structure Lexeme where
  line : Nat
  token : Token
deriving DecidableEq, Repr, Inhabited

def isNameStart (c : Char) : Bool := c.isAlpha || c = '_'

def isNameChar (c : Char) : Bool := c.isAlphanum || c = '_'

/-! ## Parts -/

/-- The characters up to the mark that closes the one before them, and those after it; marks in quotes do not count. -/
def closing (start stop : Char) (depth : Nat) (quote : Option Char) : List Char → Option (List Char × List Char)
  | [] => none
  | '\\' :: c :: cs =>
    if quote = some '\'' then
      (closing start stop depth (if c = '\'' then none else quote) cs).map fun (inner, rest) =>
        ('\\' :: c :: inner, rest)
    else (closing start stop depth quote cs).map fun (inner, rest) => ('\\' :: c :: inner, rest)
  | c :: cs =>
    let on (depth : Nat) (quote : Option Char) : Option (List Char × List Char) :=
      (closing start stop depth quote cs).map fun (inner, rest) => (c :: inner, rest)
    if quote.isSome then on depth (if quote = some c then none else quote)
    else if c = '\'' ∨ c = '"' then on depth (some c)
    else if c = stop then (if depth = 0 then some ([], cs) else on (depth - 1) none)
    else on (if c = start then depth + 1 else depth) none

/-- The parameter between braces, with how it is changed. -/
def braced (quoted : Bool) (inner : List Char) : Part :=
  let special (c : Char) : Bool := c = '?' || c = '#' || c = '@' || c = '*' || c = '$' || c = '!' || c = '-'
  let split (cs : List Char) : List Char × List Char :=
    match cs with
    | c :: rest =>
      if isNameStart c then (cs.takeWhile isNameChar, cs.dropWhile isNameChar)
      else if c.isDigit then (cs.takeWhile Char.isDigit, cs.dropWhile Char.isDigit)
      else if special c then ([c], rest)
      else ([], cs)
    | [] => ([], [])
  match inner with
  | '#' :: c :: cs =>
    let (name, rest) := split (c :: cs)
    if name ≠ [] ∧ rest = [] then .extent (String.ofList name) else .parameter "#" (c :: cs) quoted
  | cs =>
    let (name, change) := split cs
    .parameter (String.ofList name) change quoted

/-- The part that a dollar sign begins. -/
def dollar (quoted : Bool) : List Char → Except String (Part × List Char)
  | '(' :: cs =>
    match closing '(' ')' 0 none cs with
    | some ('(' :: inner, rest) =>
      if inner.getLast? = some ')' then .ok (.sum inner.dropLast, rest) else .ok (.output ('(' :: inner) quoted, rest)
    | some (script, rest) => .ok (.output script quoted, rest)
    | none => .error "end of file unexpected (expecting \")\")"
  | '\x7b' :: cs =>
    match closing '\x7b' '\x7d' 0 none cs with
    | some (inner, rest) => .ok (braced quoted inner, rest)
    | none => .error "Missing '\x7d'"
  | c :: cs =>
    if c = '$' ∨ c = '?' ∨ c = '#' ∨ c = '@' ∨ c = '*' ∨ c = '!' ∨ c = '-' ∨ c.isDigit then
      .ok (.parameter (String.singleton c) [] quoted, cs)
    else if isNameStart c then
      .ok (.parameter (String.ofList ((c :: cs).takeWhile isNameChar)) [] quoted, (c :: cs).dropWhile isNameChar)
    else .ok (.text ['$'] quoted, c :: cs)
  | [] => .ok (.text ['$'] quoted, [])

/-- The script between backquotes. -/
def backquoted : List Char → Except String (List Char × List Char)
  | [] => .error "EOF in backquote substitution"
  | '\x60' :: cs => .ok ([], cs)
  | '\\' :: c :: cs => do
    let (script, rest) ← backquoted cs
    if c = '\x60' ∨ c = '\\' ∨ c = '$' then return (c :: script, rest) else return ('\\' :: c :: script, rest)
  | c :: cs => do
    let (script, rest) ← backquoted cs
    return (c :: script, rest)

/-- The parts of quoted text up to the mark that ends it, or to the end if there is no such mark. -/
def quotedParts (stop : Option Char) : Nat → List Char → Except String (List Part × List Char)
  | 0, cs => .ok ([], cs)
  | _, [] => if stop.isSome then .error "Unterminated quoted string" else .ok ([], [])
  | fuel + 1, c :: cs => do
    if some c = stop then return ([], cs)
    else
      let (part, cs) ← match c, cs with
        | '\\', d :: cs =>
          if some d = stop ∨ d = '\\' ∨ d = '$' ∨ d = '\x60' then .ok (Part.text [d] true, cs)
          else if d = '\n' then .ok (.text [] true, cs)
          else .ok (.text ['\\', d] true, cs)
        | '$', cs => dollar true cs
        | '\x60', cs => (backquoted cs).map fun (script, rest) => (.output script true, rest)
        | c, cs => .ok (.text [c] true, cs)
      let (parts, rest) ← quotedParts stop fuel cs
      return (part :: parts, rest)

/-- The parts that the next characters of a word write, when they have a meaning of their own. -/
def special? : List Char → Option (Except String (List Part × List Char))
  | '\'' :: cs =>
    let inner := cs.takeWhile (· ≠ '\'')
    match cs.drop inner.length with
    | _ :: rest => some (.ok ([.text inner true], rest))
    | [] => some (.error "Unterminated quoted string")
  | '"' :: cs => some ((quotedParts (some '"') (cs.length + 1) cs).map fun (parts, rest) => (.text [] true :: parts, rest))
  | '\\' :: '\n' :: cs => some (.ok ([], cs))
  | '\\' :: c :: cs => some (.ok ([.text [c] true], cs))
  | '$' :: cs => some ((dollar false cs).map fun (part, rest) => ([part], rest))
  | '\x60' :: cs => some ((backquoted cs).map fun (script, rest) => ([.output script false], rest))
  | _ => none

/-- The word that a text is, whatever stands in it. -/
def wordFrom : Nat → List Char → Word
  | 0, _ => []
  | _, [] => []
  | fuel + 1, c :: cs =>
    match special? (c :: cs) with
    | some (.ok (parts, rest)) => parts ++ wordFrom fuel rest
    | some (.error _) => []
    | none => .text [c] false :: wordFrom fuel cs

def wordOf (cs : List Char) : Word := wordFrom cs.length cs

/-- The parts of a text as if it stood between double quotes. -/
def quotedWord (cs : List Char) : Word :=
  match quotedParts none (cs.length + 1) cs with
  | .ok (parts, _) => parts
  | .error _ => []

/-- The text of a word without any quotes. -/
def bare? : Word → Option (List Char)
  | [] => some []
  | .text cs false :: rest => (bare? rest).map (cs ++ ·)
  | _ => none

/-! ## Scripts -/

/-- The word read so far, if there is one, and then other lexemes. -/
def flush (line : Nat) (word : Option Word) (rest : List Lexeme) : List Lexeme :=
  match word with
  | some parts => ⟨line, .word parts⟩ :: rest
  | none => rest

/-- The stream that the word before an arrow names, if that is all it does. -/
def streamOf? : Option Word → Option Nat
  | some [.text [c] false] => Text.digit? 10 c
  | _ => none

/-- The lines of a text that end with a given one, and what follows. -/
def document (stop : List Char) (tabs : Bool) : Nat → List Char → List Char × List Char
  | 0, cs => ([], cs)
  | _, [] => ([], [])
  | fuel + 1, cs =>
    let line := cs.takeWhile (· ≠ '\n')
    let shown := if tabs then line.dropWhile (· = '\t') else line
    let rest := cs.drop (line.length + 1)
    if shown = stop then ([], rest)
    else
      let (more, rest) := document stop tabs fuel rest
      (shown ++ '\n' :: more, rest)

/-- The marks of one or two characters. -/
def mark? : List Char → Option (String × List Char)
  | ';' :: ';' :: cs => some (";;", cs)
  | '&' :: '&' :: cs => some ("&&", cs)
  | '|' :: '|' :: cs => some ("||", cs)
  | c :: cs => if c = ';' ∨ c = '&' ∨ c = '|' ∨ c = '(' ∨ c = ')' then some (String.singleton c, cs) else none
  | [] => none

/-- The arrows; each has a stream that it stands for by itself. -/
def arrow? : List Char → Option (Nat × String × List Char)
  | '>' :: '>' :: cs => some (1, ">>", cs)
  | '>' :: '&' :: cs => some (1, ">&", cs)
  | '>' :: '|' :: cs => some (1, ">", cs)
  | '>' :: cs => some (1, ">", cs)
  | '<' :: '<' :: '-' :: cs => some (0, "<<-", cs)
  | '<' :: '<' :: cs => some (0, "<<", cs)
  | '<' :: '&' :: cs => some (0, "<&", cs)
  | '<' :: cs => some (0, "<", cs)
  | _ => none

/-- The characters of a word as they are written. -/
def isWordChar (c : Char) : Bool :=
  !(c = ' ' || c = '\t' || c = '\n' || (mark? [c]).isSome || (arrow? [c]).isSome)

/-- A text to be read that begins on the next line, and the script without it. -/
def documentAt (tabs : Bool) (cs : List Char) : Token × List Char :=
  let cs := cs.dropWhile fun c => c = ' ' || c = '\t'
  let written := cs.takeWhile isWordChar
  let cs := cs.drop written.length
  let line := cs.takeWhile (· ≠ '\n')
  let isQuote (c : Char) : Bool := c = '\'' || c = '"' || c = '\\'
  let (text, rest) := document (written.filter (!isQuote ·)) tabs cs.length (cs.drop (line.length + 1))
  let parts := if written.any isQuote then [.text text true] else quotedWord text
  (.document parts, line ++ '\n' :: rest)

/-- The lexemes of a script, with part of a word read. -/
def scan : Nat → Nat → List Char → Option Word → List Lexeme
  | 0, line, _, word => flush line word []
  | _, line, [], word => flush line word []
  | fuel + 1, line, c :: cs, word =>
    if c = ' ' ∨ c = '\t' then flush line word (scan fuel line cs none)
    else if c = '\n' then flush line word (⟨line, .mark "\n"⟩ :: scan fuel (line + 1) cs none)
    else if c = '#' ∧ word.isNone then scan fuel line (cs.dropWhile (· ≠ '\n')) none
    else if c = '\\' ∧ cs.head? = some '\n' then scan fuel (line + 1) (cs.drop 1) word
    else match arrow? (c :: cs), mark? (c :: cs), special? (c :: cs) with
    | some (stream, mode, rest), _, _ =>
      let (before, stream) := match streamOf? word with
        | some stream => (none, stream)
        | none => (word, stream)
      if mode = "<<" ∨ mode = "<<-" then
        let (token, rest) := documentAt (mode = "<<-") rest
        flush line before (⟨line, token⟩ :: scan fuel line rest none)
      else flush line before (⟨line, .send stream mode⟩ :: scan fuel line rest none)
    | _, some (text, rest), _ => flush line word (⟨line, .mark text⟩ :: scan fuel line rest none)
    | _, _, some (.ok (parts, rest)) =>
      let read := (c :: cs).take (cs.length + 1 - rest.length)
      scan fuel (line + read.count '\n') rest (some (word.getD [] ++ parts))
    | _, _, some (.error message) => [⟨line, .broken message⟩]
    | _, _, none => scan fuel line cs (some (word.getD [] ++ [.text [c] false]))

/-- The words and marks of a script. -/
def lexemes (script : List Char) : List Lexeme := scan (script.length + 1) 1 script none

end Rollout.Shell
