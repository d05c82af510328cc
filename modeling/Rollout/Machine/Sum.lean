import Rollout.Table
import Rollout.Text.Digit
import Rollout.Text.Blank

/-!
# Rollout.Machine.Sum — sums in a script

A sum is a text of whole numbers, variables and signs between them.  Numbers have 64 bits with a sign and wrap around.

* `Sum.value`: the value of a sum, and the variables after it.
-/

namespace Rollout.Sum

/-- A word or a sign. -/
inductive Token
  | number (n : Int)
  | name (text : String)
  | sign (text : String)
deriving DecidableEq, Repr, Inhabited

/-- The signs of three, two and one characters. -/
def signs : List (List String) :=
  [["<<=", ">>="],
    ["||", "&&", "==", "!=", "<=", ">=", "<<", ">>", "+=", "-=", "*=", "/=", "%=", "&=", "|=", "^="],
    ["|", "^", "&", "<", ">", "+", "-", "*", "/", "%", "!", "~", "(", ")", "?", ":", "="]]

/-- The whole number that digits write: to the base sixteen after `0x`, eight after `0`, else ten. -/
def number? (cs : List Char) : Option Nat :=
  match cs with
  | '0' :: 'x' :: ds => Text.natural? 16 ds
  | '0' :: 'X' :: ds => Text.natural? 16 ds
  | '0' :: ds => Text.digits? 8 ds
  | ds => Text.natural? 10 ds

def isNameChar (c : Char) : Bool := c.isAlphanum || c = '_'

/-- The words and signs of a text; none if there is another character. -/
def tokens : Nat → List Char → Option (List Token)
  | 0, cs => if cs = [] then some [] else none
  | _, [] => some []
  | fuel + 1, c :: cs =>
    if Text.isBlankChar c then tokens fuel cs
    else if isNameChar c then do
      let word := (c :: cs).takeWhile isNameChar
      let rest ← tokens fuel ((c :: cs).dropWhile isNameChar)
      if c.isDigit then return .number (← number? word) :: rest else return .name (String.ofList word) :: rest
    else do
      let sign ← signs.flatten.find? fun sign => sign.toList.isPrefixOf (c :: cs)
      return .sign sign :: (← tokens fuel ((c :: cs).drop sign.length))

/-- How strongly a sign between two values binds. -/
def strength : String → Nat
  | "||" => 1
  | "&&" => 2
  | "|" => 3
  | "^" => 4
  | "&" => 5
  | "==" | "!=" => 6
  | "<" | "<=" | ">" | ">=" => 7
  | "<<" | ">>" => 8
  | "+" | "-" => 9
  | "*" | "/" | "%" => 10
  | _ => 0

/-- A number of 64 bits with a sign. -/
def wrap (n : Int) : Int := Int.bmod n 18446744073709551616

/-- The bits of a number. -/
def bits (n : Int) : Nat := (n % 18446744073709551616).toNat

def truth (b : Bool) : Int := if b then 1 else 0

/-- The value of two values with a sign between them. -/
def apply (sign : String) (a b : Int) : Except String Int :=
  match sign with
  | "||" => .ok (truth (a ≠ 0 || b ≠ 0))
  | "&&" => .ok (truth (a ≠ 0 && b ≠ 0))
  | "|" => .ok (wrap (bits a ||| bits b))
  | "^" => .ok (wrap (bits a ^^^ bits b))
  | "&" => .ok (wrap (bits a &&& bits b))
  | "==" => .ok (truth (a = b))
  | "!=" => .ok (truth (a ≠ b))
  | "<" => .ok (truth (a < b))
  | "<=" => .ok (truth (a ≤ b))
  | ">" => .ok (truth (a > b))
  | ">=" => .ok (truth (a ≥ b))
  | "<<" => .ok (wrap (bits a <<< (bits b % 64)))
  | ">>" => .ok (a >>> (bits b % 64))
  | "+" => .ok (wrap (a + b))
  | "-" => .ok (wrap (a - b))
  | "*" => .ok (wrap (a * b))
  | "/" => if b = 0 then .error "division by zero" else .ok (wrap (Int.tdiv a b))
  | "%" => if b = 0 then .error "division by zero" else .ok (wrap (Int.tmod a b))
  | _ => .ok b

/-- Values are read from words and signs, and they may set variables. -/
abbrev Reading := StateT (List Token × Table String) (Except String)

/-- The value of a variable. -/
def variableValue (name : String) : Reading Int := do
  let text := Text.trim (((← get).2.get? name).getD "")
  let (negative, digits) := match text.toList with
    | '-' :: ds => (true, ds)
    | '+' :: ds => (false, ds)
    | ds => (false, ds)
  if text = "" then return 0
  else match number? digits with
    | some n => return if negative then wrap (-n) else wrap n
    | none => throw ("Illegal number: " ++ text)

/-- The next sign, if it is one. -/
def sign? : Reading (Option String) := do
  match (← get).1 with
  | .sign s :: _ => return some s
  | _ => return none

def advance : Reading Unit := modify fun (ts, vars) => (ts.drop 1, vars)

/-- Reads a value.  `floor` is the least strength of a sign that belongs to it; on zero, settings and choices do too. -/
def read : Nat → Nat → Reading Int
  | 0, _ => throw "expecting primary"
  | fuel + 1, floor => do
    match (← get).1 with
    | .name name :: .sign sign :: rest =>
      let setting := floor = 0 ∧ sign.endsWith "=" ∧ strength sign = 0
      if setting then
        set (rest, (← get).2)
        let right ← read fuel 0
        let value ← if sign = "=" then pure right
          else liftExcept (apply (sign.dropEnd 1).toString (← variableValue name) right)
        modify fun (ts, vars) => (ts, vars.insert name (toString value))
        return value
      else follow fuel floor (← first fuel)
    | _ => follow fuel floor (← first fuel)
where
  liftExcept (x : Except String Int) : Reading Int := fun s => x.map (·, s)
  /-- A value that no sign stands before. -/
  first (fuel : Nat) : Reading Int := do
    match (← get).1 with
    | .number n :: _ =>
      advance
      return wrap n
    | .name name :: _ =>
      advance
      variableValue name
    | .sign "(" :: _ =>
      advance
      let value ← read fuel 0
      if (← sign?) = some ")" then
        advance
        return value
      else throw "expecting ')'"
    | .sign "-" :: _ =>
      advance
      return wrap (-(← read fuel 11))
    | .sign "+" :: _ =>
      advance
      read fuel 11
    | .sign "!" :: _ =>
      advance
      return truth ((← read fuel 11) = 0)
    | .sign "~" :: _ =>
      advance
      return wrap (-(← read fuel 11) - 1)
    | _ => throw "expecting primary"
  /-- What follows a value. -/
  follow (fuel floor : Nat) (left : Int) : Reading Int := do
    match fuel, ← sign? with
    | fuel + 1, some sign =>
      if floor ≤ strength sign ∧ strength sign ≠ 0 then
        advance
        let right ← read fuel (strength sign + 1)
        follow fuel floor (← liftExcept (apply sign left right))
      else if sign = "?" ∧ floor = 0 then
        advance
        let yes ← read fuel 0
        if (← sign?) = some ":" then
          advance
          let no ← read fuel 0
          return if left ≠ 0 then yes else no
        else throw "expecting ':'"
      else return left
    | _, _ => return left

/-- The value of a sum, and the variables after it. -/
def value (vars : Table String) (text : List Char) : Except String (Int × Table String) :=
  match tokens (text.length + 1) text with
  | none => .error "expecting EOF"
  | some [] => .ok (0, vars)
  | some ts => do
    let (value, (rest, vars)) ← (read (4 * ts.length + 4) 0).run (ts, vars)
    if rest = [] then return (value, vars) else .error "expecting EOF"

end Rollout.Sum
