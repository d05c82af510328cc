import Rollout.Text.Composite

/-!
# Rollout.Text.Normal — composed texts

A sign with marks can be written as one character or as several.  A text is composed where one character stands for
as many as it can.

* `Text.decompose`: a character as the characters it stands for.
* `Text.order`: marks in the order of their classes; marks of one class keep their order.
* `Text.compose`: the composed form of a text.
-/

namespace Rollout.Text

/-- The class of a mark; zero for a character that begins a sign. -/
def combiningClass (n : Nat) : Nat :=
  if n < 0x300 then 0 else (((combiningClasses.image? n).getD []).head?).getD 0

/-! ## Syllables

The syllables of one script are numbered by their parts: a beginning, a vowel and perhaps an ending. -/

def firstSyllable : Nat := 0xAC00
def firstBeginning : Nat := 0x1100
def firstVowel : Nat := 0x1161
/-- The number before that of the first ending. -/
def noEnding : Nat := 0x11A7
def beginningCount : Nat := 19
def vowelCount : Nat := 21
/-- The number of endings, counting that of a syllable without one. -/
def endingCount : Nat := 28

/-- The parts of a syllable. -/
def syllableParts? (n : Nat) : Option (List Nat) :=
  let i := n - firstSyllable
  if firstSyllable ≤ n ∧ i < beginningCount * vowelCount * endingCount then
    let ending := i % endingCount
    some ([firstBeginning + i / (vowelCount * endingCount), firstVowel + i % (vowelCount * endingCount) / endingCount] ++
      if ending = 0 then [] else [noEnding + ending])
  else none

/-- The syllable of two parts, the first of which may be a syllable without an ending. -/
def syllable? (a b : Nat) : Option Nat :=
  let i := a - firstBeginning
  let j := b - firstVowel
  let k := b - noEnding
  let s := a - firstSyllable
  if firstBeginning ≤ a ∧ i < beginningCount ∧ firstVowel ≤ b ∧ j < vowelCount then
    some (firstSyllable + (i * vowelCount + j) * endingCount)
  else if firstSyllable ≤ a ∧ s < beginningCount * vowelCount * endingCount ∧ s % endingCount = 0 ∧
      noEnding < b ∧ k < endingCount then
    some (a + k)
  else none

/-! ## Decomposition -/

/-- A character as the characters it stands for, taken apart so many times at most. -/
def decomposeWithin (fuel : Nat) (n : Nat) : List Nat :=
  match fuel, syllableParts? n, equivalents.image? n with
  | _, some parts, _ => parts
  | _, none, some parts => parts
  | 0, none, none => [n]
  | fuel + 1, none, none =>
    match composites.image? n with
    | some (a :: marks) => decomposeWithin fuel a ++ marks
    | _ => [n]

/-- A character as the characters it stands for; none is taken apart more than three times. -/
def decompose (n : Nat) : List Nat := if n < 0xC0 then [n] else decomposeWithin 4 n

/-- Puts a character in front of ordered ones, behind the marks of lower classes if it is a mark. -/
def insertMark (n : Nat) : List Nat → List Nat
  | [] => [n]
  | m :: ms =>
    if combiningClass n ≠ 0 ∧ combiningClass m ≠ 0 ∧ combiningClass m < combiningClass n then m :: insertMark n ms
    else n :: m :: ms

/-- Marks in the order of their classes. -/
def order (ns : List Nat) : List Nat := ns.foldr insertMark []

/-! ## Composition -/

/-- The character preferred to two others. -/
def pair? (a b : Nat) : Option Nat := (syllable? a b).orElse fun _ => composites.source? [a, b]

/-- Composes ordered characters.  `start` is the character that the marks after it may change, `marks` those that have
not, the last one first: a mark is reached past marks of lower classes only. -/
def composeFrom (start : Option Nat) (marks : List Nat) : List Nat → List Nat
  | [] => start.toList ++ marks.reverse
  | n :: ns =>
    let reached := match marks with
      | [] => true
      | m :: _ => combiningClass m < combiningClass n
    match start.bind fun s => if reached then pair? s n else none with
    | some composed => composeFrom (some composed) marks ns
    | none =>
      if combiningClass n = 0 then start.toList ++ marks.reverse ++ composeFrom (some n) [] ns
      else composeFrom start (n :: marks) ns

/-- The composed form of a text. -/
def compose (ns : List Nat) : List Nat :=
  if ns.all (· < 0x300) then ns else composeFrom none [] (order (ns.flatMap decompose))

end Rollout.Text
