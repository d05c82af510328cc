import Rollout.Machine.Word

/-!
# Rollout.Machine.Script — the grammar of scripts

A script is a row of lines.  A line joins commands by marks; a command is simple, or it is put together from others.

* `Script`: commands.
* `Script.line`: the first line of some lexemes.
-/

namespace Rollout

open Shell

/-- Connects a stream with what a word names. -/
structure Shell.Send where
  stream : Nat
  mode : String
  target : Word
deriving DecidableEq, Repr, Inhabited

/-- A command. -/
inductive Script
  | skip
  /-- A program, or settings of variables, on a line. -/
  | simple (line : Nat) (words : List Word) (sends : List Shell.Send)
  | sent (line : Nat) (body : Script) (sends : List Shell.Send)
  | pipe (left right : Script)
  | negated (body : Script)
  | both (left right : Script)
  | either (left right : Script)
  | row (left right : Script)
  /-- A command that is not waited for. -/
  | aside (body : Script)
  | branch (test yes no : Script)
  /-- A body that is run as long as a test succeeds, or fails if the loop is turned around; the second flag tells that
  the body was run before. -/
  | loop (turned begun : Bool) (test body : Script)
  | each (name : String) (words : List Word) (body : Script)
  | select (subject : Word) (arms : List (List Word × Script))
  /-- A command whose variables are its own. -/
  | inner (body : Script)
  | define (name : String) (body : Script)
  /-- Lines that were not read yet. -/
  | unread (lexemes : List Lexeme)

instance : Inhabited Script := ⟨.skip⟩

/-- The connections of a command as a whole. -/
def Script.sends : Script → List Shell.Send
  | simple _ _ sends => sends
  | sent _ _ sends => sends
  | _ => []

namespace Script

/-- Why a script cannot be read, and the line where. -/
structure Trouble where
  line : Nat
  message : String
deriving DecidableEq, Repr, Inhabited

/-- Reads lexemes. -/
abbrev Reading := StateT (List Lexeme) (Except Trouble)

/-- The words that have a meaning where a command may begin. -/
def reserved : List String :=
  ["!", "case", "do", "done", "elif", "else", "esac", "fi", "for", "if", "in", "then", "until", "while", "\x7b", "\x7d"]

/-- The words and marks before which no command begins. -/
def closers : List String := ["do", "done", "elif", "else", "esac", "fi", "then", "\x7d", ")", ";;"]

/-- How a lexeme is called in messages. -/
def callOf : Token → String
  | .word parts => match (bare? parts).map String.ofList with
    | some text => if reserved.contains text then "\"" ++ text ++ "\"" else "word"
    | none => "word"
  | .mark "\n" => "newline"
  | .mark text => "\"" ++ text ++ "\""
  | .send .. => "redirection"
  | .document _ => "redirection"
  | .broken message => message

/-- What is wrong with the next lexeme; behind the last one there is no line. -/
def trouble (expected : Option String) : List Lexeme → Trouble
  | [] => ⟨0, "end of file unexpected" ++ after⟩
  | ⟨line, .broken message⟩ :: _ => ⟨line, message⟩
  | ⟨line, token⟩ :: _ => ⟨line, callOf token ++ " unexpected" ++ after⟩
where
  after : String := match expected with
    | some e => " (expecting \"" ++ e ++ "\")"
    | none => ""

/-- Gives up at the next lexeme. -/
def refuse (expected : Option String) : Reading α := fun ls => .error (trouble expected ls)

/-- Whether a text is the name of a variable. -/
def isName (text : String) : Bool := text.toList.head?.any isNameStart && text.toList.all isNameChar

/-- The next mark, or the next word if it is bare. -/
def ahead : Reading (Option String) := do
  match ← get with
  | ⟨_, .mark text⟩ :: _ => return some text
  | ⟨_, .word parts⟩ :: _ => return (bare? parts).map String.ofList
  | _ => return none

def advance : Reading Unit := modify (·.drop 1)

/-- Passes over ends of lines. -/
def newlines : Reading Unit := modify fun ls => ls.dropWhile fun l => l.token = .mark "\n"

/-- Passes over one word or mark. -/
def expect (text : String) : Reading Unit := do
  if (← ahead) = some text then advance else refuse (some text)

/-- Words and connections in a row. -/
def collect : List Lexeme → Except Trouble ((List Word × List Shell.Send) × List Lexeme)
  | ⟨_, .word w⟩ :: rest => do
    let ((words, sends), rest) ← collect rest
    return ((w :: words, sends), rest)
  | ⟨_, .document w⟩ :: rest => do
    let ((words, sends), rest) ← collect rest
    return ((words, ⟨0, "<<", w⟩ :: sends), rest)
  | ⟨_, .send n mode⟩ :: ⟨_, .word w⟩ :: rest => do
    let ((words, sends), rest) ← collect rest
    return ((words, ⟨n, mode, w⟩ :: sends), rest)
  | ⟨_, .send ..⟩ :: rest => .error (trouble none rest)
  | rest => .ok (([], []), rest)

/-- Connections in a row. -/
def connections : List Lexeme → List Shell.Send × List Lexeme
  | ⟨_, .document w⟩ :: rest =>
    let (sends, rest) := connections rest
    (⟨0, "<<", w⟩ :: sends, rest)
  | ⟨_, .send n mode⟩ :: ⟨_, .word w⟩ :: rest =>
    let (sends, rest) := connections rest
    (⟨n, mode, w⟩ :: sends, rest)
  | rest => ([], rest)

/-- The patterns of an arm, up to the parenthesis. -/
def patterns : List Lexeme → Except Trouble (List Word × List Lexeme)
  | ⟨_, .word w⟩ :: ⟨_, .mark "|"⟩ :: rest => do
    let (words, rest) ← patterns rest
    return (w :: words, rest)
  | ⟨_, .word w⟩ :: ⟨_, .mark ")"⟩ :: rest => .ok ([w], rest)
  | ⟨_, .word _⟩ :: rest => .error (trouble (some ")") rest)
  | rest => .error (trouble none rest)

/-- The words that a loop goes through, up to the end of its head. -/
def wordList : List Lexeme → List Word × List Lexeme
  | ⟨_, .word w⟩ :: rest =>
    let (words, rest) := wordList rest
    (w :: words, rest)
  | rest => ([], rest)

/-- What is to be read. -/
inductive Goal
  /-- Commands up to the end of a line. -/
  | line
  /-- Commands up to a word or mark that closes them. -/
  | row
  /-- Commands joined to what was read by a mark. -/
  | chain (before : Option (String × Script))
  | piped (before : Option Script)
  | command
  /-- What follows the word `if`. -/
  | branch
  /-- The arms of a selection that are left. -/
  | arms (subject : Word) (before : List (List Word × Script))

/-- A simple command, or the definition of one; `body` reads what a definition holds. -/
def simpleFrom (body : Reading Script) : Reading Script := do
  match ← get with
  | ⟨_, .word w⟩ :: ⟨_, .mark "("⟩ :: ⟨_, .mark ")"⟩ :: rest =>
    set rest
    newlines
    return .define (String.ofList ((bare? w).getD [])) (← body)
  | ls =>
    let ((words, sends), rest) ← (collect ls : Except Trouble _)
    if words = [] ∧ sends = [] then refuse none
    else
      set rest
      return .simple ((ls.head?.map (·.line)).getD 1) words sends

/-- A command with the connections that follow it. -/
def withSends (line : Nat) (body : Script) : Reading Script := do
  let (sends, rest) := connections (← get)
  set rest
  return if sends = [] then body else .sent line body sends

/-- Reads what a goal asks for; `fuel` bounds the number of steps. -/
def read : Nat → Goal → Reading Script
  | 0, _ => refuse none
  | fuel + 1, .line => do
    let first ← read fuel (.chain none)
    match ← ahead with
    | some ";" => do
      advance
      match ← get with
      | [] => return first
      | ⟨_, .mark "\n"⟩ :: _ => return first
      | _ => return .row first (← read fuel .line)
    | some "&" => do
      advance
      match ← get with
      | [] => return .aside first
      | ⟨_, .mark "\n"⟩ :: _ => return .aside first
      | _ => return .row (.aside first) (← read fuel .line)
    | _ => match ← get with
      | [] => return first
      | ⟨_, .mark "\n"⟩ :: _ => return first
      | _ => refuse none
  | fuel + 1, .row => do
    newlines
    let first ← if (← get) = [] then pure .skip else read fuel (.chain none)
    let mark ← ahead
    let first := if mark = some "&" then .aside first else first
    if mark = some ";" ∨ mark = some "&" ∨ mark = some "\n" then
      advance
      newlines
      let next ← ahead
      if (← get) = [] ∨ next.any closers.contains then return first
      else return .row first (← read fuel .row)
    else return first
  | fuel + 1, .chain before => do
    let next ← if (← ahead) = some "!" then do
        advance
        pure (Script.negated (← read fuel (.piped none)))
      else read fuel (.piped none)
    let all := match before with
      | some ("&&", left) => .both left next
      | some (_, left) => .either left next
      | none => next
    match ← ahead with
    | some "&&" => do
      advance
      newlines
      read fuel (.chain (some ("&&", all)))
    | some "||" => do
      advance
      newlines
      read fuel (.chain (some ("||", all)))
    | _ => return all
  | fuel + 1, .piped before => do
    let next ← read fuel .command
    let all := match before with
      | some left => .pipe left next
      | none => next
    if (← ahead) = some "|" then
      advance
      newlines
      read fuel (.piped (some all))
    else return all
  | fuel + 1, .command => do
    let line := ((← get).head?.map (·.line)).getD 1
    let word ← ahead
    match word with
    | some "if" => do
      advance
      withSends line (← read fuel .branch)
    | some "while" => do
      advance
      let test ← read fuel .row
      expect "do"
      let body ← read fuel .row
      expect "done"
      withSends line (.loop false false test body)
    | some "until" => do
      advance
      let test ← read fuel .row
      expect "do"
      let body ← read fuel .row
      expect "done"
      withSends line (.loop true false test body)
    | some "for" => do
      advance
      let name ← ahead
      if !(name.any isName) then throw ⟨line, "Bad for loop variable"⟩
      advance
      newlines
      let words ← if (← ahead) = some "in" then do
          advance
          let (words, rest) := wordList (← get)
          set rest
          if !((← ahead).any fun mark => mark = ";" || mark = "\n") then refuse none
          pure words
        else pure [[.parameter "@" [] true]]
      if (← ahead) = some ";" then advance
      newlines
      expect "do"
      let body ← read fuel .row
      expect "done"
      withSends line (.each (name.getD "") words body)
    | some "case" => do
      advance
      match ← get with
      | ⟨_, .word subject⟩ :: rest =>
        set rest
        newlines
        expect "in"
        withSends line (← read fuel (.arms subject []))
      | _ => refuse none
    | some "\x7b" => do
      advance
      let body ← read fuel .row
      expect "\x7d"
      withSends line body
    | some "(" => do
      advance
      let body ← read fuel .row
      expect ")"
      withSends line (.inner body)
    | some text => if closers.contains text then refuse none else simpleFrom (read fuel .command)
    | none => simpleFrom (read fuel .command)
  | fuel + 1, .branch => do
    let test ← read fuel .row
    expect "then"
    let yes ← read fuel .row
    match ← ahead with
    | some "elif" => do
      advance
      return .branch test yes (← read fuel .branch)
    | some "else" => do
      advance
      let no ← read fuel .row
      expect "fi"
      return .branch test yes no
    | _ => do
      expect "fi"
      return .branch test yes .skip
  | fuel + 1, .arms subject before => do
    newlines
    if (← ahead) = some "esac" then
      advance
      return .select subject before
    else
      if (← ahead) = some "(" then advance
      let (words, rest) ← (patterns (← get) : Except Trouble _)
      set rest
      newlines
      let next ← ahead
      let body ← if next = some ";;" ∨ next = some "esac" then pure Script.skip else read fuel .row
      newlines
      if (← ahead) = some ";;" then advance
      read fuel (.arms subject (before ++ [(words, body)]))

/-- The line behind lexemes. -/
def lastLine (ls : List Lexeme) : Nat :=
  match ls.getLast? with
  | some l => if l.token = .mark "\n" then l.line + 1 else l.line
  | none => 1

/-- The first line of some lexemes, and those after it. -/
def line (ls : List Lexeme) : Except Trouble (Script × List Lexeme) :=
  match (read (8 * ls.length + 8) .line).run ls with
  | .ok (s, rest) => .ok (s, rest.drop 1)
  | .error t => .error (if t.line = 0 then { t with line := lastLine ls } else t)

end Script

end Rollout
