import Rollout.Doc.Basic
import Rollout.Text.Digit

/-!
# Rollout.Doc.Plain — what a scalar of a configuration file stands for

A scalar that carries no quotes is nothing, a truth value, a number or a text, by the core rules: three spellings
each of the words, integers to the bases 2, 8, 10 and 16, decimal fractions, and everything else a text.  Digits
with a zero in front are a text.

* `Scalar.resolve`: what a text without quotes stands for.
* `Scalar.read?`: what a scalar stands for, in view of its tag.
* `Scalar.natural?`: the natural number that a text writes; it has no minus sign, not even before a zero.
-/

namespace Rollout

/-- What a scalar stands for. -/
inductive Scalar
  | null
  | bool (value : Bool)
  | num (value : Number)
  /-- An integer too large for a document. -/
  | wide
  /-- An infinity or no number. -/
  | notFinite
  | text
deriving DecidableEq, Repr, Inhabited

namespace Scalar

def isNullWord (s : String) : Bool := s = "null" || s = "Null" || s = "NULL" || s = "~"

def boolWord? (s : String) : Option Bool :=
  if s = "true" || s = "True" || s = "TRUE" then some true
  else if s = "false" || s = "False" || s = "FALSE" then some false
  else none

/-- Two digits or more with a zero in front, after a sign. -/
def isPaddedDigits (cs : List Char) : Bool :=
  let cs := match cs with
    | '-' :: cs => cs
    | '+' :: cs => cs
    | cs => cs
  match cs with
  | '0' :: c :: cs => (c :: cs).all Char.isDigit
  | _ => false

/-- The number written after a sign: to the base that its first letters name, else in decimal digits. -/
def magnitude? (cs : List Char) : Option Nat :=
  let decimal : Option Nat := if isPaddedDigits cs then none else Text.natural? 10 cs
  match cs with
  | '0' :: 'x' :: digits => (Text.natural? 16 digits).orElse fun _ => decimal
  | '0' :: 'o' :: digits => (Text.natural? 8 digits).orElse fun _ => decimal
  | '0' :: 'b' :: digits => (Text.natural? 2 digits).orElse fun _ => decimal
  | _ => decimal

/-- The natural number written, of any size. -/
def natural? (cs : List Char) : Option Nat :=
  match cs with
  | '+' :: body => magnitude? body
  | body => magnitude? body

/-- The integer written, of any size. -/
def integer? (cs : List Char) : Option Int :=
  match cs with
  | '-' :: body => (magnitude? body).map fun n => -(n : Int)
  | body => (natural? body).map fun n => (n : Int)

/-- Splits `digits [. digits] [e [sign] digits]` into the digits before and after the point and the exponent. -/
def decimalParts? (cs : List Char) : Option (List Char × List Char × Int) := do
  let whole := cs.takeWhile Char.isDigit
  let rest := cs.dropWhile Char.isDigit
  let (fraction, rest) := match rest with
    | '.' :: rest => (rest.takeWhile Char.isDigit, rest.dropWhile Char.isDigit)
    | rest => ([], rest)
  if whole = [] ∧ fraction = [] then none
  match rest with
  | [] => some (whole, fraction, 0)
  | e :: rest =>
    if e = 'e' || e = 'E' then
      let (down, digits) := match rest with
        | '-' :: digits => (true, digits)
        | '+' :: digits => (false, digits)
        | digits => (false, digits)
      let n ← Text.natural? 10 digits
      some (whole, fraction, if down then -(n : Int) else n)
    else none

/-- The double nearest to a decimal; none where it is infinite. -/
def nearest? (negative : Bool) (digits : Nat) (exponent : Int) : Option Binary64 :=
  if digits = 0 then some (Binary64.zero negative)
  else
    let size : Int := (Nat.toDigits 10 digits).length + exponent
    if size < -400 then some (Binary64.zero negative)
    else if 400 < size then none
    else if 0 ≤ exponent then Binary64.round? negative (digits * Nat.pow 10 exponent.toNat) 1
    else Binary64.round? negative digits (Nat.pow 10 (-exponent).toNat)

/-- The finite double written. -/
def float? (cs : List Char) : Option Binary64 := do
  let (negative, body) ← match cs with
    | '+' :: c :: body => if c = '+' || c = '-' then none else some (false, c :: body)
    | '-' :: body => some (true, body)
    | body => some (false, body)
  let (whole, fraction, exponent) ← decimalParts? body
  let digits ← Text.natural? 10 (whole ++ fraction)
  nearest? negative digits (exponent - fraction.length)

def isNotFinite (s : String) : Bool :=
  [".inf", ".Inf", ".INF", "+.inf", "+.Inf", "+.INF", "-.inf", "-.Inf", "-.INF", ".nan", ".NaN", ".NAN"].contains s

/-- The integer written, told from a text up to 128 bits. -/
def ofInteger? (cs : List Char) : Option Scalar := do
  let i ← integer? cs
  if Number.minInt ≤ i ∧ i ≤ Number.maxInt then some (.num (.int i))
  else if Number.isInt128 i then some .wide
  else none

/-- The fraction written, or the word for a number that is not finite. -/
def ofFraction? (s : String) : Option Scalar :=
  if isNotFinite s then some .notFinite else (float? s.toList).map fun x => .num (.float x)

/-- What a text without quotes stands for. -/
def resolve (s : String) : Scalar :=
  if s = "" || isNullWord s then .null
  else match boolWord? s with
    | some b => .bool b
    | none =>
      match ofInteger? s.toList with
      | some n => n
      | none => if isPaddedDigits s.toList then .text else (ofFraction? s).getD .text

/-- What a scalar stands for; none where its tag does not fit it, or has no meaning of its own. -/
def read? (s : String) (style : Style) (tag : Option Tag) : Option Scalar :=
  let unmarked := if style = .plain then resolve s else .text
  match tag with
  | none => some unmarked
  | some .unreadable => some unmarked
  | some .foreign => some .text
  | some .integer => ofInteger? s.toList
  | some .fraction => ofFraction? s
  | some .truth => (boolWord? s).map .bool
  | some .nothing => if isNullWord s then some .null else none
  | some (.own _) => none

end Scalar

end Rollout
