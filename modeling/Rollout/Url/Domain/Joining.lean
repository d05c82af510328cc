import Rollout.Text.Mark
import Rollout.Text.Normal

/-!
# Rollout.Url.Domain.Joining — signs that join or part letters

Two signs that cannot be seen join letters or keep them apart.  In a name they stand only where they change how it
looks: after a sign that suppresses a vowel, or, to keep apart, between letters that would join.

* `Domain.joinsRightly`: whether each such sign of a label stands in such a place.
-/

namespace Rollout.Domain

open Text (CharSet)

/-- Letters that join the letter after them only. -/
def joinsForward : CharSet := .ofText "x9u jfe 9 fc ju"

/-- Letters that join the letter before them only. -/
def joinsBackward : CharSet := .ofText "17m-3 1 1 5-3 l 14-2 1-2 g-h 12 2-8 1 1 2-1 1 o-1 w 4-4 4 9 1 1 2 t b-2 f-1 4 1-1 3-1 5i 5-1 1 a 1-2 e 1-1 5-i b
   r-2 1 2-1 6 1eyz 1 1-1 3-4 a 3 2 a 41 1-2 3 2 1-1 1 n-3 ad bj 34 w v-1 1q-2 2-1 2 4-1 5"

/-- Letters that join on both sides. -/
def joinsBoth : CharSet := .ofText "17k 5 1 1-4 4-c 1-6 1-1 z-1 8-f i-11 1-1 9 1 1-1 14-2 2 i-2 5-3 1-8 1 1 1-1 v-a 3-e 2-3 1 2-2 2-5 22-w 2e-4 2
   1-9 1 a 1-3 2 t 2-4 1 g-9 5-1 2-5 1-e 30e o-2g e-x 1 sd1-1d jf2-4 e-3 1-4 1-2 a-3 41 1 3-2 1-1 1 2 s-1 9e-w 1
   bj-1 1-1 2w-2 1-g c-2 s-3 2-b 1a 1-1 4 2-1 1-1 1 2 5 16wl-1v"

/-- Whether a character suppresses the vowel of the one before. -/
def suppresses (n : Nat) : Bool := Text.combiningClass n = 9

/-- Whether the next letter, past characters that letters join across, is one of two sets. -/
def meets (a b : CharSet) (cs : List Nat) : Bool :=
  (cs.dropWhile Text.joinsThrough).head?.any fun n => a.contains n || b.contains n

/-- Whether each joining or parting sign stands where it may; `before` holds what came before, the last one first. -/
def joinsRightly (before : List Nat) : List Nat → Bool
  | [] => true
  | c :: rest =>
    let suppressed := before.head?.any suppresses
    let fits :=
      if c = 0x200C then suppressed || (meets joinsForward joinsBoth before && meets joinsBackward joinsBoth rest)
      else if c = 0x200D then suppressed
      else true
    fits && joinsRightly (c :: before) rest

end Rollout.Domain
