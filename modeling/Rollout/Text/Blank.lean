/-!
# Rollout.Text.Blank — blank characters

The characters with the White_Space property, and the texts that consist of them.

* `Text.isBlankChar`: the property, given by its ranges.
* `Text.trim`, `Text.trimEnd`: a text without the blanks at its ends.
-/

namespace Rollout.Text

/-- The White_Space property. -/
def isBlankChar (c : Char) : Bool :=
  let n := c.toNat
  (9 ≤ n && n ≤ 13) || n = 0x20 || n = 0x85 || n = 0xA0 || n = 0x1680 || (0x2000 ≤ n && n ≤ 0x200A) ||
    n = 0x2028 || n = 0x2029 || n = 0x202F || n = 0x205F || n = 0x3000

/-- The characters without the blanks in front. -/
def dropBlanks (cs : List Char) : List Char := cs.dropWhile isBlankChar

/-- The characters without the blanks at the end. -/
def dropBlanksEnd (cs : List Char) : List Char := (dropBlanks cs.reverse).reverse

/-- The text without the blanks at its ends. -/
def trim (s : String) : String := String.ofList (dropBlanksEnd (dropBlanks s.toList))

/-- The text without the blanks at its end. -/
def trimEnd (s : String) : String := String.ofList (dropBlanksEnd s.toList)

/-- Whether the text consists of blanks. -/
def isBlank (s : String) : Bool := s.toList.all isBlankChar

end Rollout.Text
