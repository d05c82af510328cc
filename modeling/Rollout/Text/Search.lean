/-!
# Rollout.Text.Search — finding and splitting

* `Text.holds`: whether a text contains another.
* `Text.insertAfter`: one text put after every occurrence of another.
* `Text.splitAt`: the pieces between marks; there is one piece more than there are marks.
-/

namespace Rollout.Text

/-- Whether a text contains another. -/
def holds (needle : List Char) : List Char → Bool
  | [] => needle.isEmpty
  | c :: cs => needle.isPrefixOf (c :: cs) || holds needle cs

/-- `addition` put after every occurrence of a mark; occurrences are counted from the left and do not overlap. -/
def insertAfter (mark addition : List Char) (cs : List Char) : List Char :=
  match cs with
  | [] => []
  | c :: rest =>
    if mark.isPrefixOf (c :: rest) then
      mark ++ addition ++ insertAfter mark addition (rest.drop (mark.length - 1))
    else c :: insertAfter mark addition rest
termination_by cs.length
decreasing_by
  · simp only [List.length_drop, List.length_cons]; omega
  · simp

/-- The pieces between marks. -/
def splitAt (mark : Char) : List Char → List (List Char)
  | [] => [[]]
  | c :: rest =>
    if c = mark then [] :: splitAt mark rest
    else match splitAt mark rest with
      | [] => [[c]]
      | first :: others => (c :: first) :: others

/-- The lines of a text. -/
def lines (s : String) : List String := (splitAt '\n' s.toList).map String.ofList

end Rollout.Text
