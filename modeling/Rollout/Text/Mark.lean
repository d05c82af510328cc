import Rollout.Text.CharSet

/-!
# Rollout.Text.Mark — marks and what joins the character before

* `Text.isMark`: combining marks.
* `Text.extendsSign`: characters that form one sign with the character before.
* `Text.joinsThrough`: characters that the letters around them join across.
-/

namespace Rollout.Text

/-- Marks that take no room of their own, and those that enclose. -/
def nonspacingMarks : CharSet := .ofText "lc-33 7n-6 7b-18 1 1-1 1-1 1 20-a 1c-k g 2t-6 2-5 2-1 1-3 z u-q 2j-a 1m-8 9 o-3 1-8 1-2 1-4 17-2 1n-8 16-n 1-v
   1j 1 4-7 4 3-6 a-1 t 1m 4-3 8 k-1 q 2-1 1l 4-1 4-1 2-2 3 u-1 3 b-1 1l 4-4 1-1 4 k-1 m-5 1 1m 2 1-3 8 7-1 b-1 u
   1p c 1e 3 1j 1-2 5-2 1-3 7-1 b-1 t 1m 2 6 5-1 k-1 s-1 1l-1 4-3 8 k-1 t 20 7-2 1 2i 2-6 c-7 2q 2-8 b-6 21-1 r 1 1
   1j-d 1-4 1-1 5-a 1-z 9 2u-3 1-5 1-1 2-1 p-1 4-2 g-3 d 2-1 6 f jj-2 qa-2 t-1 u-1 u-1 1s-1 1-6 8 2-a 9 19-2 1 39-1
   y 3a-2 4-1 9 6-2 63-1 2 1m 1-6 1 1 2-7 6-9 2 1c-19 2-b k-3 1c 1-4 1 5 14-8 c-1 w-3 2-1 1-2 1k 1-1 3 1-2 1m-7 2-1
   48-2 1-c 1-6 4 6 3-1 5i-1r k0-w 2da-2 3x 2o-v fe-3 2z-1 n9w-3 1-9 w-1 28-1 7k 3 4 p-1 5 47-1 q-h d 12-7 p-a 1a-2
   1c 2-3 2-1 13 1v-5 2-1 2-1 c 8 1b 1f 1-2 2-1 5-1 1 16-1 8 6m 2 4 fn4 kh-f g-f r1 6a 45-4 1ae-2 1-1 5-3 14-2 4
   4l-1 fx-3 1t-4 8t-1 25-5 1y-a 1d-3 3f 1i-e 15 2-1 a-2 1d-3 2-1 7 1p-2 10-4 1-7 1q c-1 1g-8 a-3 2 2n-2 2 1-1 6 2
   4d 3-7 l-1 1l-1 3 11-6 3-4 1y-5 d 1 1 e-1 2d-7 2-2 1 n 2c-5 1 4-1 1-1 6m-3 6-1 1-1 r-1 2d-7 2 1-1 2y 1 2-5 1 2t
   1 2-3 1-4 77-8 1-1 74-1 1 4 40-3 2-1 4 w-9 14-5 2-3 8 9-5 2-2 1a-c 1-1 5i 1-2 1 5l-6 1-5 1 2a-l 2-6 1-1 1-1 3e-5
   3 1-1 1-6 1 20-1 3 1 9n-1 b-1 1g-4 5 1 n 44l 6-e 8ug-b 3-2 1xc-4 1n-6 t4 1r-3 29 f5k-1 3mp-19 2-m f4-2 h-7 2-6
   u-3 44-2 1iz-1i 4-1d 8 e m-4 1-e 11s-6 1-g 2-6 1-1 1-4 2s 4g-6 af 1p-3 e4-3 72-1 6r 2 7-1 5 d6-6 31-6 gzhx-6n"

/-- Marks that take room. -/
def spacingMarks : CharSet := .ofText "1s3 1j 2-2 8-3 1-1 1e-1 1m-2 6-1 2-1 a 17 1m-2 1u 1m-2 8 1-1 1h-1 1m 1 6-1 2-1 a 2u-1 1-1 3-2 1-2 a 15-2 1p-3
   1p-1 1m 1-4 2-1 1-1 9-1 s e-1 1m-2 5-2 1-2 a 16-1 23-2 6-7 i-1 96-1 1r 4r-1 4 6 2-1 p-1 a-2 2-6 l-1 2-5 2 a-2
   1a0 u 3l 7-7 1-1 9m-3 2-2 4-1 1-5 68-1 1m 1 9 1-1 8-5 41 1c 5 1-4 1-1 1p u 4-1 2 1o 2-2 1 3-1 1c-7 8-1 4r l
   3sm-1 noz-1 2 2g-1 1e-f 3y-1 1b 1c-1 4-1 2-2 32-1 2-1 o 19 1 31 2-1 5 6l-1 1-1 1-1 1 jrn 1 3j 19-2 4-1 37 o-1 1n
   1c-2 9-1 d 2l-2 3-1 1 4q-2 v-1 1m-1 1-3 2-1 2-2 9 a-1 2c-2 7 2 1-3 1-1 1 2t-2 8-1 3 2y-2 6 1-3 2 6l-2 6-3 2 35-2
   8-1 1 31 1-1 6 2v 1-1 4 79-2 9 6v-5 1-1 4 2 1 3y-2 8-3 4 2c t-1 1q 5l 3 1 5j e 2y 7 2 5x-4 4-1 1 9q-1 c 1c-1 8-1
   1 d0o-2 2sk-1i 2w-1 j8z-1 6-5"

/-- Characters that form one sign with the character before and are no nonspacing marks. -/
def furtherExtenders : CharSet := .ofText "1xa o 9y o 2u o 6g 1 4-1 1-1 9-1 2v o 3b f 1th u sg 5 1 5-1 2t 1z-1 t4 36p-1 nxf 30 gyl-1 3kw 38 7c e 9 2o 9 2
   1-2 5 68 c 6p 7a hl c 16r fxq-1 j8z-1 6-5 h419-2n"

/-- Formats that letters join across. -/
def transparentFormats : CharSet := .ofText "4t 12m 6q 4xn 2-1 q-4 1d-4 5-5 17yn 6x-2 ab8-f qxs-3 43z-7 4pc gzat u-2n"

/-- A combining mark. -/
def isMark (n : Nat) : Bool := nonspacingMarks.contains n || spacingMarks.contains n

/-- Whether the character forms one sign with the character before. -/
def extendsSign (n : Nat) : Bool := nonspacingMarks.contains n || furtherExtenders.contains n

/-- Whether the letters on both sides join across the character. -/
def joinsThrough (n : Nat) : Bool := nonspacingMarks.contains n || transparentFormats.contains n

end Rollout.Text
