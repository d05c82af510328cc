import Rollout.Machine.Pattern
import Rollout.Machine.Script
import Rollout.Text.Search
import Rollout.Text.Utf8
import Rollout.Time.Span

/-!
# Rollout.Machine.Program — programs that a script can use

A program works on the state of the shell that starts it: it reads the input, prints to two streams and may change
files.  What is printed carries the time at which it was printed, because commands may run side by side.

* `Shell.State`: what a script works on.
* `Shell.program?`: what a program does to it.
-/

namespace Rollout.Shell

/-- Where something that is printed goes. -/
inductive Sink
  | stream (n : Nat)
  | file (place : String)
  | nowhere
deriving DecidableEq, Repr, Inhabited

/-- What was printed to a stream at a time. -/
structure Printed where
  stream : Nat
  time : Span
  bytes : List UInt8
deriving DecidableEq, Repr, Inhabited

/-- Whether a script goes on. -/
inductive Flow
  | on
  /-- Some loops end. -/
  | leaving (loops : Nat)
  /-- Some loops end but for the last, which starts over. -/
  | again (loops : Nat)
  /-- A command that the script defines ends. -/
  | back
  | over
deriving DecidableEq, Repr, Inhabited

/-- A command that is not waited for. -/
structure Job where
  number : Nat
  finish : Span
  status : Nat
  /-- Whether it can still print where the shell does. -/
  holds : Bool
deriving DecidableEq, Repr, Inhabited

/-- The state of a shell. -/
structure State where
  vars : Table String
  exported : Table Unit
  functions : Table Script
  /-- What variables were before they became those of a command that the script defines. -/
  saved : List (String × Option String)
  /-- What the shell is called, and its operands. -/
  operands : List String
  here : String
  files : FileTree
  stdin : List UInt8
  out : Sink
  err : Sink
  /-- What was printed, the latest first. -/
  printed : List Printed
  /-- The number of streams. -/
  streams : Nat
  line : Nat
  status : Nat
  flow : Flow
  /-- The signal that ended the shell. -/
  killed : Option Nat
  /-- Whether a program prints without end. -/
  endless : Bool
  /-- Whether a failure ends the shell, and whether it is asked about. -/
  strict : Bool
  asked : Bool
  /-- Whether variables have to be set, and whether commands are shown. -/
  wary : Bool
  traced : Bool
  took : Span
  jobs : List Job
  /-- What is done when a signal comes, or at the end. -/
  traps : Table String

namespace State

/-- A shell before its first command. -/
def start (here : String) (files : FileTree) (env : Table String) (operands : List String) : State where
  vars := env
  exported := env.map fun _ => ()
  functions := Table.empty
  saved := []
  operands := operands
  here := here
  files := files
  stdin := []
  out := .stream 0
  err := .stream 1
  printed := []
  streams := 2
  line := 1
  status := 0
  flow := .on
  killed := none
  endless := false
  strict := false
  asked := false
  wary := false
  traced := false
  took := 0
  jobs := []
  traps := Table.empty

/-- Prints somewhere. -/
def emit (s : State) (sink : Sink) (bytes : List UInt8) : State :=
  match sink with
  | .stream n => { s with printed := ⟨n, s.took, bytes⟩ :: s.printed }
  | .nowhere => s
  | .file place => match s.files.node? place with
    | some (.file text) => { s with files := s.files.put place (.file (text ++ Text.decodeLossy bytes)) }
    | _ => s

def print (s : State) (bytes : List UInt8) : State := s.emit s.out bytes

def complain (s : State) (text : String) : State := s.emit s.err (Text.encode text)

/-- What was printed to a stream, in the order of time. -/
def printedTo (s : State) (n : Nat) : List UInt8 :=
  ((s.printed.filter (·.stream = n)).reverse.mergeSort fun a b => a.time ≤ b.time).flatMap (·.bytes)

def exit (s : State) (status : Nat) : State := { s with status, flow := .over }

/-- The name of the shell in messages. -/
def name (s : State) : String := s.operands.headD "sh"

/-- A message of the shell. -/
def blame (s : State) (text : String) : State :=
  s.complain (s.name ++ ": " ++ toString s.line ++ ": " ++ text ++ "\n")

/-- The number of the shell among the programs that run. -/
def number : Nat := 1

/-- The value of a parameter, if it is set. -/
def parameter? (s : State) (name : String) : Option String :=
  if name = "$" then some (toString number)
  else if name = "?" then some (toString s.status)
  else if name = "#" then some (toString (s.operands.length - 1))
  else if name = "!" then s.jobs.head?.map fun j => toString j.number
  else if name = "-" then some (if s.strict then "e" else "")
  else if name = "@" ∨ name = "*" then
    let mark := match (s.vars.get? "IFS").map String.toList with
      | some (c :: _) => String.singleton c
      | some [] => ""
      | none => " "
    if s.operands.length ≤ 1 then none else some (String.intercalate mark (s.operands.drop 1))
  else match name.toNat? with
    | some n => s.operands[n]?
    | none => match s.vars.get? name with
      | some value => some value
      | none => if name = "PWD" then some s.here else if name = "IFS" then some " \t\n" else none

/-- Where the shell is. -/
def place (s : State) : String := if s.here = "" then "/" else s.here

def set (s : State) (name value : String) : State := { s with vars := s.vars.insert name value }

/-- Gives variables the values back that they had. -/
def restore (s : State) (values : List (String × Option String)) : State :=
  { s with vars := values.foldl (fun vars (name, value) => match value with
      | some value => vars.insert name value
      | none => vars.erase name) s.vars }

/-- The variables that programs are told. -/
def env (s : State) : Table String := s.vars.filter fun name _ => s.exported.contains name

end State

/-! ## Texts -/

/-- The number that octal digits stand for. -/
def octal (cs : List Char) : Nat := (Text.digits? 8 cs).getD 0

def isOctal (c : Char) : Bool := '0' ≤ c && c ≤ '7'

/-- The byte of a letter after a backslash. -/
def letterByte? (c : Char) : Option UInt8 :=
  match c with
  | 'n' => some 10 | 't' => some 9 | 'r' => some 13 | 'a' => some 7 | 'b' => some 8 | 'f' => some 12
  | 'v' => some 11 | '\\' => some 92
  | _ => none

/-- The bytes of a text in which a backslash begins an escape; the flag tells that `\c` ends it.  Octal digits follow
a zero, or else stand by themselves. -/
def unescape (zero : Bool) : Nat → List Char → List UInt8 × Bool
  | 0, _ => ([], false)
  | _, [] => ([], false)
  | fuel + 1, '\\' :: c :: cs =>
    let on (bytes : List UInt8) (cs : List Char) : List UInt8 × Bool :=
      let (more, ended) := unescape zero fuel cs
      (bytes ++ more, ended)
    if c = 'c' ∧ zero then ([], true)
    else if isOctal c then
      let digits := ((c :: cs).takeWhile isOctal).take (if c = '0' ∧ zero then 4 else 3)
      on [(octal digits % 256).toUInt8] ((c :: cs).drop digits.length)
    else match letterByte? c with
      | some b => on [b] cs
      | none => on (92 :: Text.encodeChar c) cs
  | fuel + 1, c :: cs =>
    let (more, ended) := unescape zero fuel cs
    (Text.encodeChar c ++ more, ended)

def unescaped (s : String) : List UInt8 × Bool := unescape true s.length s.toList

/-- Digits to a base. -/
def digitsOf (base n : Nat) : String := String.ofList (Nat.toDigits base n)

/-- The number that an operand stands for, and, if it is none, whether a number begins it. -/
def operand (a : String) : Int × Option Bool :=
  match a.toList with
  | '\'' :: c :: _ => (c.toNat, none)
  | '"' :: c :: _ => (c.toNat, none)
  | cs =>
    let (negative, cs) := match cs with
      | '-' :: cs => (true, cs)
      | '+' :: cs => (false, cs)
      | cs => (false, cs)
    let (base, ds) := match cs with
      | '0' :: 'x' :: ds => (16, ds)
      | '0' :: d :: ds => (8, d :: ds)
      | ds => (10, ds)
    let number := ds.takeWhile fun c => (Text.digit? base c).isSome
    let value : Int := (Text.digits? base number).getD 0
    (if negative then -value else value,
      if number = [] then some false else if number.length < ds.length then some true else none)

/-- How a value is set into a format. -/
structure Layout where
  left : Bool
  zeros : Bool
  plus : Bool
  blank : Bool
  /-- Whether the base is shown. -/
  based : Bool
  width : Nat
  precision : Option Nat

/-- Fills a text up to the width of a layout. -/
def Layout.fill (l : Layout) (text : String) : String :=
  let missing := l.width - text.length
  if l.left then text ++ String.ofList (List.replicate missing ' ')
  else if l.zeros then
    let sign := text.toList.takeWhile fun c => c = '-' || c = '+'
    String.ofList (sign ++ List.replicate missing '0' ++ text.toList.drop sign.length)
  else String.ofList (List.replicate missing ' ') ++ text

/-- What a letter makes of an operand; none if the letter has no meaning. -/
def Layout.value? (l : Layout) (letter : Char) (a : String) : Option (List UInt8) :=
  let (n, _) := operand a
  let padded (digits : String) : String :=
    String.ofList (List.replicate ((l.precision.getD 0) - digits.length) '0') ++ digits
  let signed := (if n < 0 then "-" else if l.plus then "+" else if l.blank then " " else "") ++
    padded (digitsOf 10 n.natAbs)
  let bits := (n % 18446744073709551616).toNat
  let number : Layout := { l with zeros := l.zeros && l.precision.isNone }
  let base (mark : String) : String := if l.based && bits ≠ 0 then mark else ""
  match letter with
  | 's' => some (Text.encode (({ l with zeros := false } : Layout).fill (match l.precision with
      | some p => (a.take p).toString
      | none => a)))
  | 'b' => some (unescaped a).1
  | 'c' => some (Text.encode (({ l with zeros := false } : Layout).fill (a.take 1).toString))
  | 'd' => some (Text.encode (number.fill signed))
  | 'i' => some (Text.encode (number.fill signed))
  | 'u' => some (Text.encode (number.fill (padded (digitsOf 10 bits))))
  | 'o' => some (Text.encode (number.fill (base "0" ++ padded (digitsOf 8 bits))))
  | 'x' => some (Text.encode (number.fill (base "0x" ++ padded (digitsOf 16 bits))))
  | 'X' => some (Text.encode (number.fill (base "0X" ++ padded ((digitsOf 16 bits).map Char.toUpper))))
  | _ => none

/-- The layout that follows a percent sign, and what is after it. -/
def layoutOf (cs : List Char) : Layout × List Char :=
  let isFlag (c : Char) : Bool := c = '-' || c = '0' || c = '+' || c = ' ' || c = '#'
  let flags := cs.takeWhile isFlag
  let cs := cs.drop flags.length
  let width := cs.takeWhile Char.isDigit
  let cs := cs.drop width.length
  let (precision, cs) := match cs with
    | '.' :: cs => (some ((Text.digits? 10 (cs.takeWhile Char.isDigit)).getD 0), cs.dropWhile Char.isDigit)
    | cs => (none, cs)
  (⟨flags.contains '-', flags.contains '0', flags.contains '+', flags.contains ' ', flags.contains '#',
    (Text.digits? 10 width).getD 0, precision⟩, cs)

/-- What a format prints, the operands that it leaves, and those that should be numbers but are none, or not as a
whole. -/
def formatOnce : Nat → List Char → List String → List UInt8 × List String × List (String × Bool)
  | 0, _, args => ([], args, [])
  | _, [], args => ([], args, [])
  | fuel + 1, '%' :: '%' :: cs, args =>
    let (bytes, args, bad) := formatOnce fuel cs args
    (37 :: bytes, args, bad)
  | fuel + 1, '%' :: cs, args =>
    match layoutOf cs with
    | (layout, letter :: cs) =>
      let isNumber := letter ≠ 's' && letter ≠ 'b' && letter ≠ 'c'
      let a := args.headD (if isNumber then "0" else "")
      match layout.value? letter a with
      | some bytes =>
        let (more, left, bad) := formatOnce fuel cs (args.drop 1)
        (bytes ++ more, left, ((operand a).2.filter fun _ => isNumber).toList.map (a, ·) ++ bad)
      | none => (37 :: Text.encode (String.ofList (letter :: cs)), [], [])
    | (_, []) => ([37], args, [])
  | fuel + 1, '\\' :: c :: cs, args =>
    let digits := if isOctal c then ((c :: cs).takeWhile isOctal).take 3 else [c]
    let (bytes, args, bad) := formatOnce fuel ((c :: cs).drop digits.length) args
    ((unescape false 1 ('\\' :: digits)).1 ++ bytes, args, bad)
  | fuel + 1, c :: cs, args =>
    let (bytes, args, bad) := formatOnce fuel cs args
    (Text.encodeChar c ++ bytes, args, bad)

/-- What a format prints that is used until no operand is left. -/
def format (f : String) : Nat → List String → List UInt8 × List (String × Bool)
  | 0, _ => ([], [])
  | n + 1, args =>
    let (bytes, left, bad) := formatOnce (f.length + 1) f.toList args
    if left = [] ∨ left.length = args.length then (bytes, bad)
    else
      let (more, worse) := format f n left
      (bytes ++ more, bad ++ worse)

/-- A text without slashes at its end. -/
def bare (p : String) : String := String.ofList (p.toList.reverse.dropWhile (· = '/')).reverse

/-- A length of time in seconds, with a fraction and a unit. -/
def seconds (s : String) : Span :=
  let whole := s.toList.takeWhile Char.isDigit
  let rest := s.toList.dropWhile Char.isDigit
  let fraction := (rest.drop 1).takeWhile Char.isDigit
  let digits (cs : List Char) : Nat := (Text.digits? 10 cs).getD 0
  let unit : Nat := if s.endsWith "m" then 60 else if s.endsWith "h" then 3600 else if s.endsWith "d" then 86400 else 1
  if s = "infinity" ∨ s = "inf" then Span.bound
  else (Span.ofSeconds (digits whole) + digits fraction * Span.second / Nat.pow 10 fraction.length) * unit

/-! ## Lines -/

/-- What is printed of lines. -/
def lineBytes (lines : List String) : List UInt8 := Text.encode (String.join (lines.map (· ++ "\n")))

/-- The lines of some octets, each with its end if it has one. -/
def lineBlocks : Nat → List UInt8 → List (List UInt8)
  | 0, _ => []
  | _, [] => []
  | n + 1, bs =>
    let line := bs.takeWhile (· ≠ 10)
    let line := line ++ (bs.drop line.length).take 1
    line :: lineBlocks n (bs.drop line.length)

def blocksOf (bs : List UInt8) : List (List UInt8) := lineBlocks bs.length bs

/-- A line with its end. -/
def ended (line : List UInt8) : List UInt8 := if line.getLast? = some 10 then line else line ++ [10]

/-- Whether octets come before others. -/
def bytesLe : List UInt8 → List UInt8 → Bool
  | [], _ => true
  | _ :: _, [] => false
  | a :: as, b :: bs => if a = b then bytesLe as bs else a < b

/-- Leaves out lines that are like the one before. -/
def thin : List (List UInt8) → List (List UInt8)
  | a :: b :: rest => if a = b then thin (b :: rest) else a :: thin (b :: rest)
  | lines => lines

/-- A range of characters that is written with a dash, and single ones. -/
def charset : List Char → List Char
  | '\\' :: 'n' :: cs => '\n' :: charset cs
  | '\\' :: 't' :: cs => '\t' :: charset cs
  | '\\' :: '0' :: cs => Char.ofNat 0 :: charset cs
  | '\\' :: '\\' :: cs => '\\' :: charset cs
  | a :: '-' :: b :: cs => (List.range (b.toNat + 1 - a.toNat)).map (fun i => Char.ofNat (a.toNat + i)) ++ charset cs
  | c :: cs => c :: charset cs
  | [] => []

/-- Replaces octets by those at the same places of another list, whose last one counts for all after it. -/
def translate (source target : List UInt8) (b : UInt8) : UInt8 :=
  match source.findIdx? (· = b) with
  | some i => (target[i]?).getD (target.getLast?.getD b)
  | none => b

/-- The octets of a file; some have no text, and some have no end, of which `n` octets are given. -/
def bytesAt (s : State) (n : Nat) (path : String) : Except String (List UInt8) :=
  if path = "-" ∨ path = "/dev/stdin" then .ok s.stdin
  else if path = "/dev/null" then .ok []
  else if path = "/dev/zero" then .ok (List.replicate n 0)
  else match s.files.read s.here path with
    | .ok text => .ok (Text.encode text)
    | .error .isDirectory => .error "Is a directory"
    | .error .notDirectory => .error "Not a directory"
    | .error _ => .error "No such file or directory"

/-- What a program says of a file that it cannot read. -/
def cannotRead (tool path why : String) : String :=
  if tool = "head" ∨ tool = "tail" then tool ++ ": cannot open '" ++ path ++ "' for reading: " ++ why ++ "\n"
  else if tool = "sort" then "sort: cannot read: " ++ path ++ ": " ++ why ++ "\n"
  else tool ++ ": " ++ path ++ ": " ++ why ++ "\n"

/-- The octets of files, or the input where none is named; a file that cannot be read is told of. -/
def gathered (tool : String) (n : Nat) (s : State) (names : List String) : List UInt8 × State :=
  let paths := if names = [] then ["-"] else names
  paths.foldl (fun (bytes, s) path =>
    match bytesAt s n path with
    | .ok more => (bytes ++ more, s)
    | .error why => (bytes, { s.complain (cannotRead tool path why) with status := if tool = "sort" then 2 else 1 }))
    ([], { s with status := 0 })

/-- Prints what a rule makes of the octets of files. -/
def filtered (tool : String) (f : List UInt8 → List UInt8) (s : State) (names : List String) : State :=
  let (bytes, s) := gathered tool 0 s names
  s.print (f bytes)

/-- Prints files one after another, and tells of those that cannot be read. -/
def concatenate (s : State) (names : List String) : State :=
  (if names = [] then ["-"] else names).foldl (fun s path =>
    match bytesAt s 0 path with
    | .ok bytes => s.print bytes
    | .error why => { s.complain ("cat: " ++ path ++ ": " ++ why ++ "\n") with status := 1 }) { s with status := 0 }

/-! ## Conditions -/

/-- The programs that can be started by their names. -/
def programs : List String :=
  ["sh", "dash", "true", "false", "echo", "printf", "pwd", "basename", "dirname", "sleep", "cat", "test", "[", "printenv",
    "seq", "wc", "head", "tail", "tr", "sort", "uniq", "rev", "tac", "tee", "yes", "ls", "touch", "mkdir", "rm", "env",
    "timeout", "kill"].flatMap fun name => [name, "/bin/" ++ name, "/usr/bin/" ++ name]

/-- The signs between two words of a condition. -/
def signs : List String := ["=", "!=", "<", ">", "-eq", "-ne", "-lt", "-le", "-gt", "-ge", "-a", "-o"]

/-- Whether a condition on texts, numbers and files holds; or what is wrong with it. -/
def holds (s : State) : List String → Except String Bool
  | [] => .ok false
  | ["!", a] => .ok (a = "")
  | "!" :: rest => (holds s rest).map not
  | ["-n", a] => .ok (a ≠ "")
  | ["-z", a] => .ok (a = "")
  | ["-t", _] => .ok false
  | [flag, p] =>
    let program := programs.contains p
    let present := s.files.contains s.here p || p = "/dev/null" || program
    let directory := s.files.containsDir s.here p
    let text := match s.files.read s.here p with
      | .ok text => text
      | .error _ => ""
    match flag with
    | "-e" => .ok present
    | "-r" => .ok present
    | "-w" => .ok present
    | "-d" => .ok directory
    | "-x" => .ok (directory || program)
    | "-f" => .ok (present && !directory && p ≠ "/dev/null")
    | "-s" => .ok (directory || text ≠ "")
    | "-h" => .ok false
    | "-L" => .ok false
    | _ => .error (if signs.contains p then p ++ ": argument expected" else flag ++ ": unexpected operator")
  | [a] => .ok (a ≠ "")
  | [a, sign, b] =>
    let number (f : Int → Int → Bool) : Except String Bool :=
      match (Text.trim a).toInt?, (Text.trim b).toInt? with
      | some x, some y => .ok (f x y)
      | none, _ => .error ("Illegal number: " ++ a)
      | _, none => .error ("Illegal number: " ++ b)
    match sign with
    | "=" => .ok (a = b)
    | "==" => .error (a ++ ": unexpected operator")
    | "!=" => .ok (a ≠ b)
    | "<" => .ok (a < b)
    | ">" => .ok (b < a)
    | "-eq" => number fun x y => x = y
    | "-ne" => number fun x y => x ≠ y
    | "-lt" => number fun x y => x < y
    | "-le" => number fun x y => x ≤ y
    | "-gt" => number fun x y => x > y
    | "-ge" => number fun x y => x ≥ y
    | "-a" => .ok (a ≠ "" && b ≠ "")
    | "-o" => .ok (a ≠ "" || b ≠ "")
    | _ => .error (a ++ ": unexpected operator")
  | args =>
    let split (mark : String) : Option (List String × List String) :=
      match args.dropWhile (· ≠ mark) with
      | _ :: after => some (args.takeWhile (· ≠ mark), after)
      | [] => none
    match split "-o", split "-a" with
    | some (before, after), _ => joined before after or
    | none, some (before, after) => joined before after and
    | none, none => .error (args.headD "" ++ ": unexpected operator")
where
  joined (before after : List String) (f : Bool → Bool → Bool) : Except String Bool :=
    match single before, single after with
    | some x, some y => .ok (f x y)
    | _, _ => .error (before.headD "" ++ ": unexpected operator")
  /-- A condition of two or three words. -/
  single : List String → Option Bool
    | ["-n", a] => some (a ≠ "")
    | ["-z", a] => some (a = "")
    | ["-e", p] => some (s.files.contains s.here p)
    | ["-f", p] => some (s.files.contains s.here p && !s.files.containsDir s.here p)
    | ["-d", p] => some (s.files.containsDir s.here p)
    | [a, "=", b] => some (a = b)
    | [a, "!=", b] => some (a ≠ b)
    | [a, "-eq", b] => compared a b fun x y => x = y
    | [a, "-ne", b] => compared a b fun x y => x ≠ y
    | [a, "-lt", b] => compared a b fun x y => x < y
    | [a, "-le", b] => compared a b fun x y => x ≤ y
    | [a, "-gt", b] => compared a b fun x y => x > y
    | [a, "-ge", b] => compared a b fun x y => x ≥ y
    | [a] => some (a ≠ "")
    | _ => none
  compared (a b : String) (f : Int → Int → Bool) : Option Bool := do return f (← a.toInt?) (← b.toInt?)

/-- Tests a condition. -/
def tested (tool : String) (s : State) (args : List String) : State :=
  match holds s args with
  | .ok b => { s with status := if b then 0 else 1 }
  | .error why => { s.blame (tool ++ ": " ++ why) with status := 2 }

/-! ## Programs -/

/-- The numbers from one to another by steps. -/
def countUp (first step last : Int) : List Int :=
  if step = 0 ∨ (last - first) * step < 0 then []
  else (List.range ((Int.tdiv (last - first) step + 1).toNat)).map fun (i : Nat) => first + step * (i : Int)

/-- The first line of the input, as the values of variables; the last one takes what is left. -/
def readLine (s : State) (names : List String) : State :=
  let line := s.stdin.takeWhile (· ≠ 10)
  let blank (c : Char) : Bool := c = ' ' || c = '\t'
  let strip (cs : List Char) : List Char := ((cs.dropWhile blank).reverse.dropWhile blank).reverse
  let rec give (s : State) (cs : List Char) : List String → State
    | [] => s
    | [name] => s.set name (String.ofList (strip cs))
    | name :: rest =>
      let cs := cs.dropWhile blank
      give (s.set name (String.ofList (cs.takeWhile (!blank ·)))) (cs.dropWhile (!blank ·)) rest
  let s' := give s (Text.decodeLossy line).toList names
  { s' with
    stdin := s.stdin.drop (line.length + 1)
    status := if line.length < s.stdin.length then 0 else 1 }

/-- The number after a flag that stands by itself or right before it; and the operands left. -/
def flagged (flag : String) (args : List String) : Option (String × List String) :=
  match args with
  | a :: rest =>
    if a = flag then rest.head?.map fun n => (n, rest.drop 1)
    else if a.startsWith flag then some ((a.drop flag.length).toString, rest)
    else none
  | [] => none

/-- How much of its input `head` or `tail` takes: octets or lines. -/
def amount (args : List String) : Bool × String × List String :=
  match flagged "-c" args, flagged "-n" args, args with
  | some (n, rest), _, _ => (true, n, rest)
  | _, some (n, rest), _ => (false, n, rest)
  | _, _, a :: rest =>
    if a.startsWith "-" ∧ ((a.drop 1).toString.toNat?).isSome then (false, (a.drop 1).toString, rest) else (false, "10", args)
  | _, _, [] => (false, "10", [])

/-- Lists a directory, or a file by its name. -/
def listed (s : State) (all : Bool) (path : String) : State :=
  match s.files.locate s.here path with
  | .ok place => match s.files.node? place with
    | some .directory =>
      let names := (Pattern.namesAt s.files place).filter fun n => all || n.toList.head? ≠ some '.'
      s.print (lineBytes ((if all then [".", ".."] else []) ++ names))
    | some (.file _) => s.print (lineBytes [path])
    | none => missing
  | .error _ => missing
where
  missing : State :=
    { s.complain ("ls: cannot access '" ++ path ++ "': No such file or directory\n") with status := 2 }

/-- Changes the file tree, or tells why that is refused. -/
def changed (s : State) (what : String) (r : Except OsFault FileTree) : State :=
  match r with
  | .ok files => { s with files }
  | .error e =>
    let why := ((e.message.splitOn " (os error").head?).getD e.message
    { s.complain (what ++ ": " ++ why ++ "\n") with status := 1 }

/-- Runs one of the programs that there are; none if there is no such program. -/
def program? (s : State) (name : String) (args : List String) : Option State :=
  let done := { s with status := 0 }
  let plain := args.filter fun a => !a.startsWith "-"
  match name with
  | "true" => some done
  | "false" => some { s with status := 1 }
  | "test" => some (tested "test" s args)
  | "[" => some (if args.getLast? = some "]" then tested "[" s args.dropLast
      else { s.blame "[: missing ]" with status := 2 })
  | "printenv" => match args with
    | [v] => some (match s.env.get? v with
      | some value => done.print (lineBytes [value])
      | none => { s with status := 1 })
    | _ => some (done.print (lineBytes (s.env.entries.map fun (k, v) => k ++ "=" ++ v)))
  | "seq" =>
    let n (a : String) : Int := a.toInt?.getD 0
    some (done.print (lineBytes ((match args with
      | [a] => countUp 1 1 (n a)
      | [a, b] => countUp (n a) 1 (n b)
      | [a, step, b] => countUp (n a) (n step) (n b)
      | _ => []).map toString)))
  | "wc" =>
    let (bytes, s) := gathered "wc" 0 s plain
    let count := if args.contains "-c" then bytes.length else if args.contains "-l" then bytes.count 10
      else if args.contains "-m" then (Text.decodeLossy bytes).length
      else ((Text.decodeLossy bytes).toList.splitBy fun a b => Text.isBlankChar a = Text.isBlankChar b).countP
        fun w => !(w.head?.any Text.isBlankChar)
    some (if s.status ≠ 0 then s else s.print (lineBytes [String.intercalate " " (toString count :: plain)]))
  | "head" =>
    let (octets, n, names) := amount args
    let n := n.toNat?.getD 10
    let (bytes, s) := gathered "head" n s names
    some (s.print (if octets then bytes.take n else ((blocksOf bytes).take n).flatten))
  | "tail" =>
    let (octets, n, names) := amount args
    let (bytes, s) := gathered "tail" 0 s names
    let take (α : Type) (all : List α) : List α :=
      if n.startsWith "+" then all.drop (((n.drop 1).toString.toNat?.getD 1) - 1) else all.drop (all.length - n.toNat?.getD 10)
    some (s.print (if octets then take _ bytes else (take _ (blocksOf bytes)).flatten))
  | "tr" =>
    let set (a : String) : List UInt8 := (charset a.toList).flatMap Text.encodeChar
    some (match args with
      | ["-d", a] => done.print (s.stdin.filter fun b => !(set a).contains b)
      | [a, b] => done.print (s.stdin.map (translate (set a) (set b)))
      | _ => { s with status := 1 })
  | "sort" =>
    let number (line : List UInt8) : Int := (Text.trim (Text.decodeLossy line)).toInt?.getD 0
    let le (a b : List UInt8) : Bool := if args.contains "-n" then number a < number b || (number a = number b && bytesLe a b)
      else bytesLe a b
    some (filtered "sort" (fun bytes =>
      let lines := ((blocksOf bytes).map ended).mergeSort le
      let lines := if args.contains "-u" then thin lines else lines
      (if args.contains "-r" then lines.reverse else lines).flatten) s plain)
  | "uniq" => some (filtered "uniq" (fun bytes => (thin ((blocksOf bytes).map ended)).flatten) s plain)
  | "rev" => some (filtered "rev" (fun bytes => (blocksOf bytes).flatMap fun line =>
      let text := (Text.decodeLossy (line.filter (· ≠ 10))).toList
      (text.reverse.flatMap Text.encodeChar) ++ line.filter (· = 10)) s plain)
  | "tac" => some (filtered "tac" (fun bytes => (blocksOf bytes).reverse.flatten) s plain)
  | "tee" => some (plain.foldl (fun s p => changed s ("tee: " ++ p)
      (s.files.write s.here p (Text.decodeLossy s.stdin))) (done.print s.stdin))
  | "yes" =>
    let line := Text.encode ((if args = [] then "y" else String.intercalate " " args) ++ "\n")
    some { (s.print (List.replicate (1048576 / line.length + 1) line).flatten) with endless := true, flow := .over }
  | "basename" => some (match args with
      | p :: rest =>
        let name := (Path.fileName? (bare p)).getD (if p = "" then "" else "/")
        let ending := rest.headD ""
        let cut := ending ≠ "" ∧ name.endsWith ending ∧ name ≠ ending
        done.print (lineBytes [if cut then (name.dropEnd ending.length).toString else name])
      | [] => { s.complain "basename: missing operand\n" with status := 1 })
  | "dirname" => some (done.print (lineBytes (args.map fun p =>
      if bare p = "" ∧ p ≠ "" then "/" else ((Path.parent? (bare p)).filter (· ≠ "")).getD ".")))
  | "sleep" =>
    let help := "Try 'sleep --help' for more information.\n"
    let isLength (a : String) : Bool := a.toList.head?.any fun c => c.isDigit || c = '.' || a = "infinity" || a = "inf"
    some (match args, args.find? (!isLength ·) with
      | [], _ => { s.complain ("sleep: missing operand\n" ++ help) with status := 1 }
      | _, some a => { s.complain ("sleep: invalid time interval '" ++ a ++ "'\n" ++ help) with status := 1 }
      | _, none => { done with took := args.foldl (fun t a => t + seconds a) s.took })
  | "cat" => some (concatenate done plain)
  | "ls" =>
    let all := args.any fun a => a.startsWith "-" && a.toList.contains 'a'
    some ((if plain = [] then ["."] else plain).foldl (fun s p => listed s all p) done)
  | "touch" => some (plain.foldl (fun s p => if s.files.contains s.here p then s
      else changed s ("touch: cannot touch '" ++ p ++ "'") (s.files.write s.here p "")) done)
  | "mkdir" => some (plain.foldl (fun s p =>
      if args.contains "-p" then
        (p :: ((Path.lineage p).filter (· ≠ ""))).reverse.foldl (fun s p => if s.files.containsDir s.here p then s
          else changed s ("mkdir: cannot create directory '" ++ p ++ "'") (s.files.makeDir s.here p)) s
      else changed s ("mkdir: cannot create directory '" ++ p ++ "'") (s.files.makeDir s.here p)) done)
  | "rm" =>
    let force := args.any fun a => a.startsWith "-" && a.toList.contains 'f'
    some (plain.foldl (fun s p => if force && !s.files.contains s.here p then s
      else changed s ("rm: cannot remove '" ++ p ++ "'") (s.files.remove s.here p)) done)
  | _ => none

end Rollout.Shell
