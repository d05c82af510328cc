import Rollout.Doc.Basic
import Rollout.Text.Digit
import Rollout.Text.Utf8

/-!
# Rollout.Json.Reader — reading document text

The text is read over what is left of it, a list of characters.  Reading yields a document in every case: where
the text breaks off or goes wrong, the document holds the flaw and nothing after it.

* `readNumber`: the significand is collected exactly up to 64 bits, further digits only move the exponent; the
  result is then scaled by a rounded power of ten.
* `readString`: escapes, paired surrogates.
* `Doc.ofText`: a whole text with blanks around it; what follows the value is a flaw of its own.
-/

namespace Rollout.Json

/-- Space, tab, line feed and carriage return. -/
def isSpace (c : Char) : Bool := c = ' ' || c = '\t' || c = '\n' || c = '\r'

/-- The text from its first character that is no blank. -/
def skipSpace (cs : List Char) : List Char := cs.dropWhile isSpace

/-- A piece that was read, or the flaw found, together with the text after it if reading can go on. -/
abbrev Piece (α : Type) := Except Flaw α × Option (List Char)

/-! ## Numbers -/

/-- The greatest significand that is kept exactly. -/
def maxSignificand : Nat := UInt64.size - 1

/-- The digits at the front: the significand with as many as fit added, the number of the others, and the rest.
The flag tells whether a digit was left out. -/
def takeDigits (s : Nat) (kept left : Nat) (full : Bool) : List Char → Nat × Nat × Nat × Bool × List Char
  | [] => (s, kept, left, full, [])
  | c :: cs =>
    if c.isDigit then
      let s' := s * 10 + Text.digitVal c
      if !full && s' ≤ maxSignificand then takeDigits s' (kept + 1) left false cs
      else takeDigits s kept (left + 1) true cs
    else (s, kept, left, full, c :: cs)

/-- `s * 10 ^ exponent` in floating point; a power beyond the table of rounded powers is divided out in steps. -/
def scale? (s : Nat) (exponent : Int) : Option Binary64 :=
  let rec down (fuel : Nat) (x : Binary64) (exponent : Int) : Option Binary64 :=
    if -308 ≤ exponent then x.scale10? exponent
    else if x.isZero then some x
    else match fuel with
      | 0 => some (Binary64.zero false)
      | fuel + 1 => do down fuel (← x.scale10? (-308)) (exponent + 308)
  do
    let x ← Binary64.ofNat? s
    if 308 < exponent then (if x.isZero then some x else none)
    else down 4 x exponent

/-- The float of a sign, a significand and an exponent. -/
def floatPiece (negative : Bool) (s : Nat) (exponent : Int) (rest : List Char) : Piece Number :=
  match scale? s exponent with
  | some x => (.ok (.float { x with negative := negative }), some rest)
  | none => (.error (.soft .numberOutOfRange), some rest)

/-- The greatest exponent that is told from an endless one. -/
def maxExponentText : Nat := 0x7FFFFFFF

/-- Reads the exponent after its letter. -/
def readExponent (negative : Bool) (s : Nat) (exponent : Int) (cs : List Char) : Piece Number :=
  let (down, cs) := match cs with
    | '+' :: cs => (false, cs)
    | '-' :: cs => (true, cs)
    | cs => (false, cs)
  match cs with
  | [] => (.error ⟨.endInValue, some .invalidNumber⟩, none)
  | c :: _ =>
    if c.isDigit then
      let digits := cs.takeWhile Char.isDigit
      let rest := cs.dropWhile Char.isDigit
      let e := digits.foldl (fun e c => min (e * 10 + Text.digitVal c) (maxExponentText + 1)) 0
      if maxExponentText < e then
        if s ≠ 0 ∧ !down then (.error (.soft .numberOutOfRange), some rest)
        else (.ok (.float (Binary64.zero negative)), some rest)
      else floatPiece negative s (if down then exponent - e else exponent + e) rest
    else (.error (.hard .invalidNumber), none)

/-- Reads what may follow the digits before and after the point. -/
def readTail (negative : Bool) (s : Nat) (exponent : Int) (cs : List Char) : Piece Number :=
  match cs with
  | c :: rest => if c = 'e' || c = 'E' then readExponent negative s exponent rest
    else floatPiece negative s exponent cs
  | [] => floatPiece negative s exponent cs

/-- Reads the digits after the point; `full` tells that digits before it were left out already. -/
def readFraction (negative : Bool) (s : Nat) (exponent : Int) (cs : List Char) : Piece Number :=
  match cs with
  | [] => (.error ⟨.endInValue, some .invalidNumber⟩, none)
  | c :: _ =>
    if c.isDigit then
      let (s, kept, _, _, rest) := takeDigits s 0 0 false cs
      readTail negative s (exponent - kept) rest
    else (.error (.hard .invalidNumber), none)

/-- Reads a number after its sign. -/
def readNumber (negative : Bool) (cs : List Char) : Piece Number :=
  match cs with
  | [] => (.error ⟨.endInValue, some .invalidNumber⟩, none)
  | c :: cs' =>
    if !c.isDigit then (.error (.hard .invalidNumber), none)
    else if c = '0' && (cs'.head?.any Char.isDigit) then (.error (.hard .invalidNumber), none)
    else
      let (s, _, left, full, rest) := takeDigits 0 0 0 false cs
      match rest with
      | '.' :: rest => readFraction negative s left rest
      | d :: rest' =>
        if d = 'e' || d = 'E' then readExponent negative s left rest'
        else whole s left full rest
      | [] => whole s left full rest
where
  whole (s left : Nat) (full : Bool) (rest : List Char) : Piece Number :=
    if full then floatPiece negative s left rest
    else if !negative then (.ok (.int s), some rest)
    else if 0 < s ∧ Number.minInt ≤ -(s : Int) then (.ok (.int (-(s : Int))), some rest)
    else floatPiece negative s 0 rest

/-! ## Texts -/

/-- Four hexadecimal digits.  The text ends too early for them if it has fewer than four octets left. -/
def readHex4 (cs : List Char) : Except TextFault (Nat × List Char) :=
  match Text.digits? 16 (cs.take 4), cs.drop 3 with
  | some n, _ :: rest => .ok (n, rest)
  | _, _ => .error (if Text.byteLength (String.ofList (cs.take 4)) < 4 then .endInString else .invalidEscape)

/-- The escape after `\u`: one code unit, or two that form a pair. -/
def readUnit (cs : List Char) : Except TextFault (Char × List Char) := do
  let (n, rest) ← readHex4 cs
  if 0xDC00 ≤ n ∧ n ≤ 0xDFFF then .error .loneSurrogate
  else if n < 0xD800 ∨ 0xDBFF < n then .ok (Char.ofNat n, rest)
  else match rest with
    | [] => .error .endInString
    | '\\' :: [] => .error .endInString
    | '\\' :: 'u' :: rest => do
      let (n2, rest) ← readHex4 rest
      if n2 < 0xDC00 ∨ 0xDFFF < n2 then .error .loneSurrogate
      else .ok (Char.ofNat (0x10000 + (n - 0xD800) * 0x400 + (n2 - 0xDC00)), rest)
    | _ => .error .endOfHexEscape

/-- The character of a one-letter escape. -/
def simpleEscape? (c : Char) : Option Char :=
  match c with
  | '"' => some '"'
  | '\\' => some '\\'
  | '/' => some '/'
  | 'b' => some (Char.ofNat 8)
  | 'f' => some (Char.ofNat 12)
  | 'n' => some '\n'
  | 'r' => some '\r'
  | 't' => some '\t'
  | _ => none

/-- Whether a reader who only looks for the closing quote finds it, and the text after it. -/
def skipString (fuel : Nat) (cs : List Char) : Except TextFault (List Char) :=
  match fuel, cs with
  | _, [] => .error .endInString
  | 0, _ => .error .endInString
  | fuel + 1, c :: rest =>
    if c = '"' then .ok rest
    else if c = '\\' then
      match rest with
      | [] => .error .endInString
      | 'u' :: rest => do
        let (_, rest) ← readHex4 rest
        skipString fuel rest
      | e :: rest => if (simpleEscape? e).isSome then skipString fuel rest else .error .invalidEscape
    else if c.toNat < 32 then .error .controlCharacter
    else skipString fuel rest

/-- Reads a text after its opening quote; `seen` is what was read so far, last character first. -/
def readString (fuel : Nat) (seen : List Char) (cs : List Char) : Except TextFault (String × List Char) :=
  match fuel, cs with
  | _, [] => .error .endInString
  | 0, _ => .error .endInString
  | fuel + 1, c :: rest =>
    if c = '"' then .ok (String.ofList seen.reverse, rest)
    else if c = '\\' then
      match rest with
      | [] => .error .endInString
      | 'u' :: rest => do
        let (c, rest) ← readUnit rest
        readString fuel (c :: seen) rest
      | e :: rest =>
        match simpleEscape? e with
        | some c => readString fuel (c :: seen) rest
        | none => .error .invalidEscape
    else if c.toNat < 32 then .error .controlCharacter
    else readString fuel (c :: seen) rest

/-- A text after its opening quote, as a piece of a document. -/
def stringPiece (cs : List Char) : Piece String :=
  match readString (cs.length + 1) [] cs with
  | .ok (s, rest) => (.ok s, some rest)
  | .error fault =>
    match skipString (cs.length + 1) cs with
    | .ok rest => (.error (.soft fault), some rest)
    | .error skipped => (.error ⟨fault, some skipped⟩, none)

/-! ## Values -/

/-- A document that was read, and the text after it if reading can go on. -/
abbrev ReadDoc := Doc × Option (List Char)

/-- The rest of a word such as `true` after its first letter. -/
def readWord (word : List Char) (doc : Doc) (cs : List Char) : ReadDoc :=
  match word, cs with
  | [], cs => (doc, some cs)
  | _ :: _, [] => (.broken (.hard .endInValue), none)
  | w :: ws, c :: cs => if w = c then readWord ws doc cs else (.broken (.hard .expectedWord), none)

def numberDoc : Piece Number → ReadDoc
  | (.ok n, rest) => (.num n, rest)
  | (.error flaw, rest) => (.broken flaw, rest)

def stringDoc : Piece String → ReadDoc
  | (.ok s, rest) => (.str s, rest)
  | (.error flaw, rest) => (.broken flaw, rest)

mutual

/-- Reads a value. -/
def readValue (fuel : Nat) (cs : List Char) : ReadDoc :=
  match fuel with
  | 0 => (.broken (.hard .endInValue), none)
  | fuel + 1 =>
    match skipSpace cs with
    | [] => (.broken (.hard .endInValue), none)
    | c :: rest =>
      if c = 'n' then readWord ['u', 'l', 'l'] .null rest
      else if c = 't' then readWord ['r', 'u', 'e'] (.bool true) rest
      else if c = 'f' then readWord ['a', 'l', 's', 'e'] (.bool false) rest
      else if c = '-' then numberDoc (readNumber true rest)
      else if c.isDigit then numberDoc (readNumber false (c :: rest))
      else if c = '"' then stringDoc (stringPiece rest)
      else if c = '[' then readItems fuel true [] rest
      else if c = '\x7b' then readMembers fuel true [] rest
      else (.broken (.hard .expectedValue), none)

/-- Reads the items of a list after its bracket; `seen` holds those read so far, the last one first. -/
def readItems (fuel : Nat) (first : Bool) (seen : List Doc) (cs : List Char) : ReadDoc :=
  match fuel with
  | 0 => (.broken (.hard .endInList), none)
  | fuel + 1 =>
    let stop (flaw : Flaw) : ReadDoc := (.seq seen.reverse (some flaw), none)
    let item (cs : List Char) : ReadDoc :=
      match readValue fuel cs with
      | (doc, some rest) => readItems fuel false (doc :: seen) rest
      | (doc, none) => (.seq (doc :: seen).reverse none, none)
    match skipSpace cs with
    | [] => stop (.hard .endInList)
    | c :: rest =>
      if c = ']' then (.seq seen.reverse none, some rest)
      else if first then item (c :: rest)
      else if c = ',' then
        match skipSpace rest with
        | [] => stop (.hard .endInValue)
        | ']' :: _ => stop ⟨.trailingComma, some .expectedValue⟩
        | rest => item rest
      else stop (.hard .expectedCommaOrBracket)

/-- Reads the members of an object after its brace; `seen` holds those read so far, the last one first.  Behind a key
that cannot be read, only a reader who skips the object goes on. -/
def readMembers (fuel : Nat) (first : Bool) (seen : List (Doc × Doc)) (cs : List Char) : ReadDoc :=
  match fuel with
  | 0 => (.broken (.hard .endInObject), none)
  | fuel + 1 =>
    let stop (flaw : Flaw) : ReadDoc := (.map seen.reverse (some flaw), none)
    let member (cs : List Char) : ReadDoc :=
      match stringDoc (stringPiece cs) with
      | (.broken flaw, none) => stop flaw
      | (_, none) => stop (.hard .endInString)
      | (key, some rest) =>
        let miss (fault : TextFault) : ReadDoc :=
          stop (match key with
            | .broken flaw => ⟨flaw.seen, some fault⟩
            | _ => .hard fault)
        match skipSpace rest with
        | [] => miss .endInObject
        | ':' :: rest =>
          match readValue fuel rest with
          | (doc, some rest) => readMembers fuel false ((key, doc) :: seen) rest
          | (doc, none) => (.map ((key, doc) :: seen).reverse none, none)
        | _ => miss .expectedColon
    match skipSpace cs with
    | [] => stop (.hard .endInObject)
    | c :: rest =>
      if c = '\x7d' then (.map seen.reverse none, some rest)
      else if first then
        if c = '"' then member rest else stop (.hard .keyNotString)
      else if c = ',' then
        match skipSpace rest with
        | [] => stop ⟨.endInValue, some .endInObject⟩
        | '"' :: rest => member rest
        | '\x7d' :: _ => stop ⟨.trailingComma, some .keyNotString⟩
        | _ => stop (.hard .keyNotString)
      else stop (.hard .expectedCommaOrBrace)

end

end Rollout.Json

namespace Rollout.Doc

/-- The document of a text, and the fault of what follows it. -/
def ofText (text : String) : Doc × Option TextFault :=
  let cs := text.toList
  match Json.readValue (2 * cs.length + 4) cs with
  | (doc, none) => (doc, none)
  | (doc, some rest) => (doc, if Json.skipSpace rest = [] then none else some .trailingCharacters)

end Rollout.Doc
