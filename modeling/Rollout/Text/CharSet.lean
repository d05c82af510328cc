import Rollout.Text.Digit
import Rollout.Text.Search

/-!
# Rollout.Text.CharSet — sets and maps of characters written as runs

A table of characters is a text of words, each for a run of code points, in rising order.  A word begins with the
distance from the end of the run before; numbers are in digits to the base 36.

* `CharSet.ofText`: in a set, a dash and the number of further characters may follow.
* `CharMap.ofText`: in a map, an equals sign and the images of the run follow.
* `CharSet.contains`, `CharMap.image?`, `CharMap.source?`: what a table says of a character.
-/

namespace Rollout.Text

/-- The words of a table, between blanks and line breaks. -/
def tableWords (s : String) : List (List Char) :=
  (splitAt ' ' (s.toList.map fun c => if c = '\n' then ' ' else c)).filter (· ≠ [])

/-- The number that digits to the base 36 write. -/
def tableNumber (cs : List Char) : Nat := (digits? 36 cs).getD 0

/-- A set of characters as runs, each with its first and its last member, rising. -/
structure CharSet where
  runs : List (Nat × Nat)
deriving Repr, Inhabited

namespace CharSet

/-- The runs of words, the first of which begins at `next` or after it. -/
def runsFrom (next : Nat) : List (List Char) → List (Nat × Nat)
  | [] => []
  | word :: words =>
    let first := next + tableNumber (word.takeWhile (· ≠ '-'))
    let last := first + tableNumber ((word.dropWhile (· ≠ '-')).drop 1)
    (first, last) :: runsFrom (last + 1) words

/-- The set that a table writes. -/
def ofText (s : String) : CharSet := ⟨runsFrom 0 (tableWords s)⟩

/-- Whether a number lies in one of the runs, which rise. -/
def lies (n : Nat) : List (Nat × Nat) → Bool
  | [] => false
  | (first, last) :: runs => first ≤ n && (n ≤ last || lies n runs)

def contains (s : CharSet) (n : Nat) : Bool := lies n s.runs

end CharSet

/-- Characters at equal distances and their images, which for single characters may be at equal distances too. -/
structure CharRun where
  first : Nat
  further : Nat
  step : Nat
  images : List Nat
  imageStep : Nat
deriving DecidableEq, Repr, Inhabited

/-- A map from characters to lists of characters, as runs. -/
structure CharMap where
  runs : List CharRun
deriving Repr, Inhabited

namespace CharRun

/-- The last character of the run. -/
def last (r : CharRun) : Nat := r.first + r.further * r.step

/-- The run of a word after the place `next`.  Between the distance and the equals sign a mark and a number tell how
many further characters the run has: after a dash, neighbours with images side by side; after a slash, every other
character; after a star, neighbours with one image. -/
def ofWord (next : Nat) (word : List Char) : CharRun :=
  let place := word.takeWhile (· ≠ '=')
  let images := (splitAt ',' (word.drop (place.length + 1))).map tableNumber
  let gap := place.takeWhile Char.isAlphanum
  let mark := place[gap.length]?.getD '-'
  let step := if mark = '/' then 2 else 1
  ⟨next + tableNumber gap, tableNumber (place.drop (gap.length + 1)), step, images, if mark = '*' then 0 else step⟩

/-- The image of a character. -/
def image? (r : CharRun) (n : Nat) : Option (List Nat) :=
  if r.first ≤ n ∧ n ≤ r.last ∧ (n - r.first) % r.step = 0 then
    some (r.images.map (· + (n - r.first) / r.step * r.imageStep))
  else none

end CharRun

namespace CharMap

/-- The runs of words, the first of which begins at `next` or after it. -/
def runsFrom (next : Nat) : List (List Char) → List CharRun
  | [] => []
  | word :: words =>
    let run := CharRun.ofWord next word
    run :: runsFrom (run.last + 1) words

/-- The map that a table writes. -/
def ofText (s : String) : CharMap := ⟨runsFrom 0 (tableWords s)⟩

/-- The image of a number in the first run that has it; the runs rise. -/
def find? (n : Nat) : List CharRun → Option (List Nat)
  | [] => none
  | r :: runs => if n < r.first then none else (r.image? n).orElse fun _ => find? n runs

/-- What a character is mapped to. -/
def image? (m : CharMap) (n : Nat) : Option (List Nat) := find? n m.runs

/-- The first character mapped to a list, among runs of one character. -/
def source? (m : CharMap) (images : List Nat) : Option Nat := (m.runs.find? (·.images = images)).map CharRun.first

end CharMap

end Rollout.Text
