import Rollout.Text.Mark

/-!
# Rollout.Url.Domain.Direction — names that run from right to left

In a name with letters that run from right to left, each label runs in one direction: it begins with a letter, ends
with a letter or digit, and has nothing in it that would turn its parts around.

* `Domain.direction`: the direction of a character.
* `Domain.runsRight`, `Domain.runsLeft`: labels of either direction.
* `Domain.isOrdered`: the rule for a whole name.
-/

namespace Rollout.Domain

open Text (CharSet)

/-- Letters that run from right to left. -/
def leftward : CharSet := .ofText "14u 1 2 2 9-q 4-5 j 2 1 d 1-19 y-2 1-3 4-2k f-1 7-1 a-j 2 1-t t-2g b e-16 9-1 4 3-n 4 9 3 7-e 1-o 5 1-a 5-v g-15
   1bzc-g j4 1vw-5 2 1-17 1-1 3 2-m 1-1z 8-8 1c-i 1-1 5-w 4-p 5-q 12-1j 4-j 2-1a f-3 1-2 1-s a-8 7-8 7-1r w-10 6-b
   9-1h a-l 2-q 5-p 7-3 c-6 28-20 3b-1e 7-15 s-f v-m 8-1 6o-15 3 2-1 g-5 1k-13 8-l b-8 m-h 4-3 12-r k-m 16o9-5g 2-8
   2a-x 7 4-9 4-1 lt-1v 24-1o"

/-- Digits that run with letters from right to left. -/
def arabicNumbers : CharSet := .ofText "19c-9 1-1 1fwj-9 86-u"

/-- Digits that run from left to right among all letters. -/
def europeanNumbers : CharSet := .ofText "1c-9 1bq-9 1drb-q"

/-- Separators, signs and other characters without a direction. -/
def undirected : CharSet := .ofText "0-8 5-d 5-e a-6 q-5 q-4 x-6 1 1-1 1 1-1 4-1 3 3 n v ch-1 7-d 2-5 6-1 5-8 1-g 39 3k b7 2-2 3a-1 1-1 1 1-1 2i 37 a
   7g-3 e0-1 7 6t 75-7 3h-6 cg 6y-3 uq-9 2u ii-1 8u k-9 6-a 8l 3-1 48-x 170-1 2 1-4 1-b 3 8-2 2 2-3 1 1-7 3-c 1-6
   1t-7 1-o 1u 3 b 2-1 5-1 3 1 1 1 4 b 6-3 5-3 1o-1 4-4b 2 2-6v 2-a 1x-p 1-43 m-a 4g-cg 1-9e 74-7f 1-2u 3-2s 1-46
   2-3t 6d-5 e-6 74-2l y-p 1-3 1-2a 7i 1-1 3-o f 6 5-2 2o 2i 5g-11 5i2-1r h3k-1i 92-2 2r a-1 3k-x 2u 4f-3 c-1 1m-3
   ky-1 fvb-f a3-h 1s-1 1i-7 19-2 1x-1 je 1q-24 3-c 3 1ha ex-6 fi 9t-8 ah-j 16i-c 1uw-s fsg i71-5x 10-2 3-c3 6-m
   f-g l4-1 l-1t 3 56-2e 33c 2cw-1 7i-17 4-2r c-e 2-e 1-e 1-10 l-4 v 1p-2 1p 4y-5 4a-rc 3-g 3-c 3-61 6-b 4 f-b 4-1j
   8-9 6-13 8-t 2-b 4-1 e-8 13-9j 8-d 2-c 3-a 3-1k 1 4-f 2-b 4-9 7-42 1-2j a"

/-- The direction of a character. -/
inductive Direction
  | right
  | left
  | arabicNumber
  | europeanNumber
  | mark
  | none
deriving DecidableEq, Repr

/-- The direction of a character; a few marks have one of their own. -/
def direction (n : Nat) : Direction :=
  if leftward.contains n then .left
  else if arabicNumbers.contains n then .arabicNumber
  else if europeanNumbers.contains n then .europeanNumber
  else if undirected.contains n then .none
  else if Text.nonspacingMarks.contains n && !([0xCBF, 0xCC6, 0x11A07, 0x11A08, 0x11C3F].contains n) then .mark
  else .right

/-- Splits off the last character that is no mark. -/
def lastSign? (ds : List Direction) : Option (List Direction × Direction) :=
  match ds.reverse.dropWhile (· = .mark) with
  | [] => .none
  | d :: before => some (before.reverse, d)

/-- Whether a label after its first letter, which runs from left to right, goes on so. -/
def runsRight (rest : List Direction) : Bool :=
  match lastSign? rest with
  | .none => true
  | some (inner, last) =>
    [.right, .europeanNumber].contains last &&
      inner.all fun d => [Direction.right, .europeanNumber, .none, .mark].contains d

/-- Whether a label after its first letter, which runs from right to left, goes on so; it has digits of one kind. -/
def runsLeft (rest : List Direction) : Bool :=
  match lastSign? rest with
  | .none => true
  | some (inner, last) =>
    [.left, .arabicNumber, .europeanNumber].contains last && !inner.contains .right &&
      !((last :: inner).contains .arabicNumber && (last :: inner).contains .europeanNumber)

/-- Whether a label runs in one direction. -/
def runsStraight (label : List Nat) : Bool :=
  match label.map direction with
  | [] => true
  | .right :: rest => runsRight rest
  | .left :: rest => runsLeft rest
  | _ => false

/-- Whether the labels of a name run in one direction each, if any letter or digit of them runs from right to left. -/
def isOrdered (labels : List (List Nat)) : Bool :=
  let turned := labels.any fun l => l.any fun n => direction n = .left || direction n = .arabicNumber
  !turned || labels.all runsStraight

end Rollout.Domain
