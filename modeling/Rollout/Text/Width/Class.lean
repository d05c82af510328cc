import Rollout.Text.Mark

/-!
# Rollout.Text.Width.Class — characters by the room they take

* `Text.columns`: the columns of a character that stands alone.
* `Text.isEmoji`, `Text.beginsEmoji`, `Text.beginsPlain`: pictures, and what a selector after them makes of them.
-/

namespace Rollout.Text

/-- Ideographs, syllables and pictures, which take two columns. -/
def wideChars : CharSet := .ofText "3cw-2n 3i2-1 d-1 5a-3 3 2 eh-1 l-1 q-7 g-b 17 a-5 3 d 8-1 h-1 5-1 8 5 l 7-1 1 4 2 7 4-1 s z 1 4-2 1 1p-2 o e
   nv-1 1f 4 mi-p 1-2g c-5x q-26 2-2d 2-2u 5-16 1-2l 1-2d 9-1b 1-13 8-mkc 3-1i wp-s hv-8mb 6l8-e7 ls-9 m-y 1-i 1-3
   45-2n 3j-6 m49-4 b-6 9-5p1 15-v 2p-36 6pp-3 1-6 1-1 1-82 f t-2 2 e-3 8-az 6bo-2e 9-m 5n1 5m 5a 2-9 2t-2 d-17 4-8
   7-1 e-5 4a-w c-8 1-1x 1-l c-16 4-4 c-g 3 3-1y 1 1-56 2-1q d-3 1-n i q-1 d 2e-2c 1c-1x 6 3-2 2-3 3-3 b-1 7-8 6b-b
   4 7v-1a 1-9 1-54 34-c 3-a 3-1k 1 4-f 2-b 4-9 zr-1ekd 2-1ekd"

/-- Characters that take no column and form no sign with the character before. -/
def unseenChars : CharSet := .ofText "4t 11z m 6q ao-1 28 1od-4f 172 1ks 1-2 q-4 1d-f 3ck nmd 985-m 4-1c 7pf 4g 27-8 119j-3 43z-7 h405-v 2o-3j 6o-2rz"

/-- Pictures. -/
def emojis : CharSet := .ofText "6xm-1 5p-3 3 2 eh-1 l-1 1e-b 17 j d 8-1 h-1 5-1 8 5 l 7-1 1 4 2 7 4-1 s z 1 4-2 1 1p-2 o e nv-1 1f 4 2hf2 5m 5a
   2-9 2u o k 2-4 1-2 l-1 4u-w c-8 1-1x 1-l c-16 4-4 c-g 3 3-2 5-1q 1 1-56 2-1q d-3 1-n i q-1 d 2e-2c 1c-1x 6 3-2
   2-3 3-3 b-1 7-8 6b-b 4 7v-1a 1-9 1-54 34-c 3-a 3-1k 1 4-f 2-b 4-9"

/-- Signs that a selector turns into pictures. -/
def plainEmojis : CharSet := .ofText "z 6 5-9 33 4 68d c 60 m 2i-5 f-1 al 4m t-2 1-1 5-2 5j 6f-1 a 9 1m-1 3-4 9 2 6 4 2 1-1 2 3 3-1 8-2 5 1 s-1 2 1-1
   1 i 2 j 1-3 1 1-1 3 6 8-1 m 6 1 1 l 6-1 2 2-2 8 5-1 2-1 1 2 1 1 6 3 h-1 f 2 r-1 1o b6-1 cv-2 10o c gp 1 2g9i-1
   c-1 3m 1g 6h 2-8 9 1y o-1 1-2 2-1 17-3 5-b j 1 1 1z 1 57 23-1 10-1 2-6 d 2-3 2 k 2 8-1 9 5-2 c-2 8-2 2 1 4 6 3 6
   5s 1-2 g-5 3 6 2"

/-- Pictures that a selector turns into signs of one column. -/
def plainableEmojis : CharSet := .ofText "6xm-1 5p-3 3 2 eh-1 l-1 1e-b 17 j d 8-1 h-1 5-1 8 5 l 7-1 1 4 2 7 4-1 s z 1 4-2 1 1p-2 o e nv-1 1f 4 2hf2 lk-2 5
   6 2j q j 4-2 j 1 1 3 l c q c 9 6 r 3-3 3-1 4 m i 11 c 2 7 3 b e 4 4-2 3-3 9 1-2 c 4 4-1 1o-n 4o 3a 5 3 2 3 k 4
   6-1 1"

/-- Pictures that a modifier of colour changes. -/
def emojiBases : CharSet := .ofText "7j1 63 g-3 2iyf 1o-2 2 2-2 39-1 2-a l-i 3 4-2 1-2 7 1 o 5l-1 4 l 4-1 4u-2 3-4 2b g-2 9 b fz 2 8-7 6 9-9 2-2 1k
   1p-1 1-1 1 h-2 1-c 6d-2 16-8"

/-- The columns of a character that stands alone. -/
def columns (n : Nat) : Nat :=
  if n ≤ 0xA0 then 1
  else if n = 0x2D7F ∨ n = 0xFF9E ∨ n = 0xFF9F then 1
  else if n = 0x115F ∨ n = 0x17A4 then 2
  else if n = 0x17D8 then 3
  else if extendsSign n || unseenChars.contains n then 0
  else if wideChars.contains n then 2
  else 1

def isEmoji (n : Nat) : Bool := emojis.contains n

/-- Whether a selector after the character makes it a picture. -/
def beginsEmoji (n : Nat) : Bool :=
  plainEmojis.contains n || plainableEmojis.contains n || n = 0x1F21A || n = 0x1F22F

/-- Whether a selector after the character makes it a sign of one column. -/
def beginsPlain (n : Nat) : Bool := plainableEmojis.contains n

def isEmojiBase (n : Nat) : Bool := emojiBases.contains n

/-- One of the signs of regions, of which two form a flag. -/
def isIndicator (n : Nat) : Bool := 0x1F1E6 ≤ n && n ≤ 0x1F1FF

/-- A modifier of colour. -/
def isModifier (n : Nat) : Bool := 0x1F3FB ≤ n && n ≤ 0x1F3FF

end Rollout.Text
