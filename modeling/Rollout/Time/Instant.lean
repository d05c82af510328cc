import Rollout.Number.Range
import Rollout.Text.Blank
import Rollout.Text.Digit

/-!
# Rollout.Time.Instant — points in time

An instant is a day of the proleptic Gregorian calendar, a second of that day and nanoseconds, all in universal
time; a leap second shows as a second with more than a thousand million nanoseconds.

* `Instant.parse`: reads a date and time with offset; one-digit members and blanks are let pass.
* `Instant.text`, `Instant.display`: the written forms.
* `Instant.secondsSince`: whole seconds between two instants.
-/

namespace Rollout

/-- A point in time. -/
structure Instant where
  /-- Days since 1970-01-01. -/
  day : Int
  /-- The second of the day. -/
  second : Nat
  nano : Nat
deriving DecidableEq, Repr, Inhabited

/-- Why a date and time is refused. -/
inductive InstantFault
  | invalid
  | tooShort
  | trailing
  | outOfRange
  | impossible
deriving DecidableEq, Repr, Inhabited

def InstantFault.message : InstantFault → String
  | invalid => "input contains invalid characters"
  | tooShort => "premature end of input"
  | trailing => "trailing input"
  | outOfRange => "input is out of range"
  | impossible => "no possible date and time matching input"

namespace Instant

/-! ## Calendar -/

def isLeapYear (year : Int) : Bool := year % 4 = 0 && (year % 100 ≠ 0 || year % 400 = 0)

def daysInMonth (year : Int) (month : Nat) : Nat :=
  if month = 2 then (if isLeapYear year then 29 else 28)
  else if [4, 6, 9, 11].contains month then 30 else 31

/-- Days from 1970-01-01 to a date; years are counted from March so that the leap day comes last. -/
def daysOfDate (year : Int) (month day : Nat) : Int :=
  let y := if month ≤ 2 then year - 1 else year
  let era := y / 400
  let yearOfEra := y - era * 400
  let dayOfYear : Int := ((153 * ((month + 9) % 12) + 2) / 5 + day - 1 : Nat)
  let dayOfEra := yearOfEra * 365 + yearOfEra / 4 - yearOfEra / 100 + dayOfYear
  era * 146097 + dayOfEra - 719468

/-- The date that many days from 1970-01-01. -/
def dateOfDays (days : Int) : Int × Nat × Nat :=
  let z := days + 719468
  let era := z / 146097
  let dayOfEra := (z - era * 146097).toNat
  let yearOfEra := (dayOfEra - dayOfEra / 1460 + dayOfEra / 36524 - dayOfEra / 146096) / 365
  let dayOfYear := dayOfEra - (365 * yearOfEra + yearOfEra / 4 - yearOfEra / 100)
  let mp := (5 * dayOfYear + 2) / 153
  let day := dayOfYear - (153 * mp + 2) / 5 + 1
  let month := if mp < 10 then mp + 3 else mp - 9
  let year := (yearOfEra : Int) + era * 400 + (if month ≤ 2 then 1 else 0)
  (year, month, day)

/-- The least and the greatest year of the calendar. -/
def minYear : Int := -262143
def maxYear : Int := 262142

/-! ## Reading -/

/-- A reader of a part of the text. -/
abbrev Reader (α : Type) := List Char → Except InstantFault (α × List Char)

/-- A number of one digit up to `width` digits. -/
def number (width : Option Nat) : Reader Nat := fun cs =>
  let digits := match width with
    | some w => (cs.take w).takeWhile Char.isDigit
    | none => cs.takeWhile Char.isDigit
  match cs, digits with
  | [], _ => .error .tooShort
  | _, [] => .error .invalid
  | _, _ =>
    let n := digits.foldl (fun n c => n * 10 + Text.digitVal c) 0
    if Number.isInt64 n then .ok (n, cs.drop digits.length) else .error .outOfRange

/-- A number after blanks, within a range. -/
def member (width lo hi : Nat) : Reader Nat := fun cs => do
  let (n, rest) ← number (some width) (Text.dropBlanks cs)
  if lo ≤ n ∧ n ≤ hi then .ok (n, rest) else .error .outOfRange

/-- A year, which may carry a sign; with a sign it may have any number of digits. -/
def year : Reader Int := fun cs => do
  let (y, rest) ← match Text.dropBlanks cs with
    | '-' :: rest => do
      let (n, rest) ← number none rest
      pure (-(n : Int), rest)
    | '+' :: rest => do
      let (n, rest) ← number none rest
      pure ((n : Int), rest)
    | rest => do
      let (n, rest) ← number (some 4) rest
      pure ((n : Int), rest)
  if Number.isInt32 y then .ok (y, rest) else .error .outOfRange

/-- A fixed character. -/
def mark (c : Char) : Reader Unit
  | [] => .error .tooShort
  | x :: rest => if x = c then .ok ((), rest) else .error .invalid

/-- A fraction after a point, to nanoseconds; further digits are passed over. -/
def fraction : Reader Nat
  | '.' :: cs => do
    let (n, rest) ← number (some 9) cs
    let count := cs.length - rest.length
    .ok (n * Nat.pow 10 (9 - count), rest.dropWhile Char.isDigit)
  | cs => .ok (0, cs)

/-- The places of two digits.  They are counted in octets, so one wide character fills both. -/
def twoDigits : Reader (Char × Char)
  | a :: b :: rest => .ok ((a, b), rest)
  | [a] => .error (if a.utf8Size = 1 then .tooShort else .invalid)
  | [] => .error .tooShort

/-- The minutes of an offset. -/
def offsetMinutes : Reader Nat := fun cs => do
  let ((a, b), rest) ← twoDigits cs
  if a.isDigit && b.isDigit then
    if '6' ≤ a then .error .outOfRange else .ok (Text.digitVal a * 10 + Text.digitVal b, rest)
  else .error .invalid

/-- An offset in seconds: `Z`, `UTC`, or a sign, hours and minutes. -/
def offset : Reader Int := fun cs =>
  let lower (c : Char) : Char := if 'A' ≤ c && c ≤ 'Z' then Char.ofNat (c.toNat + 32) else c
  if (cs.take 3).map lower = ['u', 't', 'c'] then .ok (0, cs.drop 3)
  else
    let signed (negative : Bool) (cs : List Char) : Except InstantFault (Int × List Char) := do
      let ((a, b), rest) ← twoDigits cs
      if !(a.isDigit && b.isDigit) then .error .invalid
      let (minutes, rest) ← offsetMinutes (rest.dropWhile fun c => c = ':' || Text.isBlankChar c)
      let seconds : Int := ((Text.digitVal a * 10 + Text.digitVal b) * 3600 + minutes * 60 : Nat)
      .ok (if negative then -seconds else seconds, rest)
    match cs with
    | [] => .error .tooShort
    | c :: rest =>
      if c = 'Z' || c = 'z' then .ok (0, rest)
      else if c = '+' then signed false rest
      else if c = '-' || c.toNat = 0x2212 then signed true rest
      else .error .invalid

/-- The instant of a local date and time with an offset; the offset may not lead out of the calendar. -/
def ofParts (year : Int) (month day hour minute second nano : Nat) (offset : Int) : Except InstantFault Instant :=
  let leap := second = 60
  let local_ : Int := (hour * 3600 + minute * 60 + (if leap then 59 else second) : Nat) - offset
  let days := daysOfDate year month day + local_ / 86400
  if year < minYear ∨ maxYear < year ∨ daysInMonth year month < day ∨ 86400 ≤ offset.natAbs then
    .error .outOfRange
  else if days < daysOfDate minYear 1 1 ∨ daysOfDate maxYear 12 31 < days then .error .impossible
  else .ok ⟨days, (local_ % 86400).toNat, nano + if leap then 1000000000 else 0⟩

/-- Reads a date and time with offset. -/
def parse (text : String) : Except InstantFault Instant := do
  let (year, cs) ← year text.toList
  let (_, cs) ← mark '-' (Text.dropBlanks cs)
  let (month, cs) ← member 2 1 12 cs
  let (_, cs) ← mark '-' (Text.dropBlanks cs)
  let (day, cs) ← member 2 1 31 cs
  let cs ← match cs with
    | [] => .error .tooShort
    | c :: rest => if c = 'T' || c = 't' || c = ' ' then .ok rest else .error .invalid
  let (hour, cs) ← member 2 0 23 cs
  let (_, cs) ← mark ':' (Text.dropBlanks cs)
  let (minute, cs) ← member 2 0 59 cs
  let (_, cs) ← mark ':' (Text.dropBlanks cs)
  let (second, cs) ← member 2 0 60 cs
  let (nano, cs) ← fraction cs
  let (offset, cs) ← offset (Text.dropBlanks cs)
  if Text.dropBlanks cs ≠ [] then .error .trailing
  ofParts year month day hour minute second nano offset

/-! ## Writing -/

/-- A number with zeros in front up to a width. -/
def padded (width n : Nat) : String :=
  let digits := Nat.toDigits 10 n
  String.ofList (List.replicate (width - digits.length) '0' ++ digits)

def yearText (y : Int) : String :=
  if 0 ≤ y ∧ y ≤ 9999 then padded 4 y.toNat
  else if y < 0 then "-" ++ padded 4 y.natAbs
  else "+" ++ padded 5 y.toNat

def dateText (t : Instant) : String :=
  let (y, m, d) := dateOfDays t.day
  yearText y ++ "-" ++ padded 2 m ++ "-" ++ padded 2 d

/-- The time with no, three, six or nine digits of a fraction, as few as are exact. -/
def timeText (t : Instant) : String :=
  let leap := 1000000000 ≤ t.nano
  let nano := if leap then t.nano - 1000000000 else t.nano
  let second := t.second % 60 + if leap then 1 else 0
  let fraction :=
    if nano = 0 then ""
    else if nano % 1000000 = 0 then "." ++ padded 3 (nano / 1000000)
    else if nano % 1000 = 0 then "." ++ padded 6 (nano / 1000)
    else "." ++ padded 9 nano
  padded 2 (t.second / 3600) ++ ":" ++ padded 2 (t.second / 60 % 60) ++ ":" ++ padded 2 second ++ fraction

/-- The wire form. -/
def text (t : Instant) : String := t.dateText ++ "T" ++ t.timeText ++ "Z"

/-- The form shown to an operator. -/
def display (t : Instant) : String := t.dateText ++ " " ++ t.timeText ++ " UTC"

/-- Whole seconds from `t` to `now`; none before `t`. -/
def secondsSince (t now : Instant) : Nat :=
  let leap : Int :=
    if t.second < now.second ∧ 1000000000 ≤ t.nano then 1
    else if now.second < t.second ∧ 1000000000 ≤ now.nano then -1
    else 0
  let seconds := (now.day - t.day) * 86400 + ((now.second : Int) - t.second) + leap
  let nanos := seconds * 1000000000 + ((now.nano : Int) - t.nano)
  (nanos / 1000000000).toNat

end Instant

end Rollout
