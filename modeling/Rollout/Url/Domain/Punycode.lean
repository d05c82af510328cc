import Rollout.Text.Digit

/-!
# Rollout.Url.Domain.Punycode — labels outside ASCII in ASCII

A label is written as its ASCII characters and, after a dash, the places of the others: for each, in rising order, how
far to count through all places and characters from the one before.  The counts are numbers in digits whose weight
depends on those before.

* `Punycode.encode`: the ASCII form.
* `Punycode.decode?`: the label of an ASCII form.
-/

namespace Rollout.Domain.Punycode

/-- The digit of a value. -/
def digit (n : Nat) : Char := if n < 26 then Char.ofNat (97 + n) else Char.ofNat (22 + n)

/-- The value of a digit. -/
def digit? (c : Char) : Option Nat :=
  if c.isDigit then some (Text.digitVal c + 26)
  else (Text.digit? 36 c).map (· - 10)

/-- The number of digits. -/
def base : Nat := 36

/-- The bias after a count, with so many characters there then. -/
def bias (count size : Nat) (first : Bool) : Nat :=
  let count := if first then count / 700 else count / 2
  let rec go (fuel : Nat) (count k : Nat) : Nat :=
    match fuel with
    | 0 => k
    | fuel + 1 => if 455 < count then go fuel (count / 35) (k + base) else k + base * count / (count + 38)
  go 64 (count + count / size) 0

/-- The least value of a digit after which another digit follows, `k` being 36 for each place. -/
def threshold (bias k : Nat) : Nat := if k ≤ bias then 1 else if bias + 26 ≤ k then 26 else k - bias

/-! ## Encoding -/

/-- A count in digits. -/
def number (fuel : Nat) (bias count k : Nat) : List Char :=
  let t := threshold bias k
  match fuel with
  | 0 => [digit count]
  | fuel + 1 =>
    if count < t then [digit count]
    else digit (t + (count - t) % (base - t)) :: number fuel bias ((count - t) / (base - t)) (k + base)

/-- What is written so far, the running count, the bias and how many characters are written. -/
structure Progress where
  out : List Char
  count : Nat
  bias : Nat
  size : Nat

/-- Passes a character of the label while those equal to `m` are written; `basic` are there from the start. -/
def pass (m basic : Nat) (p : Progress) (c : Nat) : Progress :=
  if c < m then { p with count := p.count + 1 }
  else if c = m then
    ⟨p.out ++ number 32 p.bias p.count base, 0, Punycode.bias p.count (p.size + 1) (p.size = basic), p.size + 1⟩
  else p

/-- The ASCII form of a label. -/
def encode (label : List Nat) : List Char :=
  let basic := (label.filter (· < 128)).map Char.ofNat
  let rec go (fuel : Nat) (n : Nat) (p : Progress) : List Char :=
    match fuel, (label.filter (n ≤ ·)).min? with
    | 0, _ => p.out
    | _, none => p.out
    | fuel + 1, some m =>
      let p := label.foldl (pass m basic.length) { p with count := p.count + (m - n) * (p.size + 1) }
      go fuel (m + 1) { p with count := p.count + 1 }
  (if basic = [] then [] else basic ++ ['-']) ++ go label.length 128 ⟨[], 0, 72, basic.length⟩

/-! ## Decoding -/

/-- The greatest number that a count may reach. -/
def maxCount : Nat := UInt32.size - 1

/-- Reads digits that add to a count. -/
def count? (bias : Nat) (i weight k : Nat) : List Char → Option (Nat × List Char)
  | [] => none
  | c :: rest => do
    let d ← digit? c
    let i := i + d * weight
    if maxCount < i then none
    let t := threshold bias k
    if d < t then some (i, rest)
    else
      let weight := weight * (base - t)
      if maxCount < weight then none else count? bias i weight (k + base) rest

/-- Inserts characters as the counts say. -/
def insertAll? (fuel : Nat) (label : List Nat) (n i bias : Nat) (cs : List Char) : Option (List Nat) :=
  match fuel, cs with
  | _, [] => some label
  | 0, _ => none
  | fuel + 1, cs => do
    let (count, rest) ← count? bias i 1 base cs
    let size := label.length + 1
    let n := n + count / size
    if !n.isValidChar then none
    let place := count % size
    insertAll? fuel (label.take place ++ n :: label.drop place) n (place + 1)
      (Punycode.bias (count - i) size (i = 0)) rest

/-- The label of an ASCII form. -/
def decode? (cs : List Char) : Option (List Nat) :=
  let counts := (cs.reverse.takeWhile (· ≠ '-')).reverse
  let basic := cs.take (cs.length - counts.length - 1)
  let (basic, counts) := if basic = [] then ([], cs) else (basic, counts)
  if basic.all (·.toNat < 128) then insertAll? cs.length (basic.map Char.toNat) 128 0 72 counts else none

end Rollout.Domain.Punycode
