import Rollout.Text.Mark

/-!
# Rollout.Text.Quoted — a text shown between quotes

Messages show a foreign text between quotes so that its ends and its invisible characters can be seen.

* `Text.quoted`: quote, backslash and the common control characters get a letter escape; characters that
  print nothing of their own are written by number.
-/

namespace Rollout.Text

/-- Code points that stand for no character. -/
def unassigned : CharSet := .ofText "oo-1 6-3 7 1 k b1 12-1 1e-1 3 1j-7 r-3 6-a 7i 1o-1 2t-d 1n-1 1d-1 f s-1 1 b-4 y-4 6l 8-1 2-1 m 7 1-2 4-1 9-1 2-1
   4-7 1-3 2 5-1 p-1 3 6-3 2-1 m 7 2 2 2-1 1 5-3 2-1 3-2 1-6 4 1-6 h-9 3 9 3 m 7 2 5-1 a 3 3-1 1-e 4-1 c-6 7 3 8-1
   2-1 m 7 2 5-1 9-1 2-1 3-6 3-3 2 5-1 i-9 2 6-2 3 4-2 2 1 2-2 2-2 3-2 c-3 5-2 3 4-1 1-5 1-d l-4 d 3 n g-1 9 3 4-6
   2 3 2-1 4-1 a-6 m 3 n a 5-1 9 3 4-6 2-4 3 4-1 a 3-b d 3 1f 3 6-3 g-1 q 3 i-2 o 9 1-1 7-2 1-3 6 1 8-5 a-1 3-b
   1m-3 t-10 2 1 5 o 1 n-1 5 1 7 a-1 4-v 20 10-3 13 10 f d-10 5i 1-4 1-1 ah 4-1 7 1 4-1 15 4-1 x 4-1 7 1 4-1 f 1l
   4-1 1v-1 w-2 q-5 2e-1 6-1 il-2 2h-6 m-8 o-8 k-b d 3 2-b 2m-1 a-5 a-5 q-5 2h-6 17-4 1y-9 v c-3 c-3 1-2 16-1 5-a
   18-3 q-5 b-2 1q-1 1t t-1 b-5 a-5 e-1 1a-1 c-j 25 4m-7 1o-2 f-2 1q-4 17-1 b-7 17-4 eu-1 6-1 12-1 6-1 8 1 1 1 v-1
   1h f e-1 6 j-1 3 9 2t c-1 r d-2 y-d x-e 3w-3 ii-l b-k 1ec-1 am-4 19 1-4 1-1 1k-6 2-d o-8 7 7 7 7 7 7 7 7 3i-x q
   2h-b 5y-p 28 2e-1 2v-4 17 2m 2e-8 1c mlp-2 1j-8 9o-j 54-7 65-j 1o-2 a-5 1k-7 1y-7 c-5 38-a u-2 26 b-3 x 1j-8 e-1
   a-1 2v-n s-9 6-1 6-1 6-8 7 7 1o-3 3i-1 a-5 8mc-b n-3 1d-3 6su-1 2y-11 7-b 5-4 q 5 1 2 2 i2-v 16-5 1f j 4-3 5
   3r-1 1 5a-2 6-1 6-1 6-1 3-2 7 7-9 5-1 c q j 2 f-1 e-x 3f-4 3-3 19-2 2g d-2 1-1a 1a-3l t-2 1d-e s-3 10-8 u-4 17-4
   u 11-3 e-15 4e-1 a-5 10-3 10-3 14-7 1g-a c f 7 2 b f 7 2-2 1g-b 8n-8 m-9 8-n 6 16 9-1w 6-1 1 18 2-2 1-1 n 20-7
   9-1b j 2-4 x-2 r-4 r-11 1k-3 k-1 1e 2-4 8 3 t-1 3-3 a-6 9-6 1s-v 13-3 c-8 1i-2 t-1 r-4 q-6 4-b 7-27 21-1i 1f-c
   1f-6 1a-7 a-5 12-2 t-7 2-5r v 16 3-1 2-f 6-7 9-w 1a-7 16-l q-11 s-j n-8 26-3 10-8 1w-9 1-1 p-6 a-5 1h i-7 13-8
   2o k-a i 1b-1p 7 1 4 f b-5 1n-4 a-5 4 8-1 2-1 m 7 2 5 a-1 2-1 3-1 1-5 1-4 7-1 7-2 5-a a 1-1 1 12 a 1-1 1 4 a 2-7
   2-s 2k 5-t 20-7 a-4l 1i-1 12-x 1x-a a-5 d-i 1m-5 a-5 k-r r-1 f-3 n-54 1o-2r 2b-b 8-1 1-1 8 2 u 2-1 c-8 a-1x 8-1
   1a-1 b-q 20-7 2b-c 21-6 a-2d 8-2f y-d a-5 9 19 e-9 t-2 w-1 m e-20 7 2 18-2 1 2 9-7 a-5 6 2 11 2 6-6 a-5 18-3
   a-6t p-6 h 15-2 t-2c 1-e 1e-c pn-2t 33 5-a 5g-217 2r-c uu-9 32z-4 g7-5a0 1m-1c5 ft-6 v a-3 29 a-5 u-1 6-9 1y-9 a
   7 l-4 j-bz 1m-5h 2j-4 p-1 p-17 23-3 1l-6 h-1r 5-a 7-8 5p2-14 w-2o 37-6po 4 7 2 83-e 1-s 3-1 1-d 4-7 b0-1s3 2z-4
   d-2 9-6 a-1 8-317 71-2 c4-5 n-e h-e 1a-1 n-8 38-1n 6u-9 13-1 5e-k 1y-3d k-b k-b 2f-8 p-3q 2d 1z 2-1 1-1 2-1 4 c
   1 7 1t 4-1 8 7 s 4 5 1-2 7 9g-1 84-1 ji-e 5 f-un v-5 6-5w 7 h-1 7 2 5-4 1q-w 1-33 19-2 e-1 a-3 2-8v v-g 1m-4
   1-cv 16-5x 17-3 1-5b v m-7 2-67 7 4 2 f 5h-1 g-14 24-3 a-3 2-ls 1w-23 1p-5d 4 r 2 1-1 1 a 4 1 1-5 1-3 1 1 1 3 2
   1-1 1 1 1 1 1 2 1-1 4 7 4 4 1 a h-4 3 5 h-1f 2-7h 18-3 2s-b f-1 f f 11-9 4u-1j t-c 18-3 9-6 2-d 6-49 rd-2 h-2
   d-2 62-5 c-3 1-e c-3 1k-7 a-5 14-7 u-1 c-3 2-d 9-12 9k-7 e-1 d-2 b-2 1l 1-3 g-1 c-3 a-6 43 2v-sk wyo-v 3dq-1
   4ge-1 5rl-e ha-1wh f2-15t 3t7-4 6ju-f5vq 1-t 2o-3j 6o-1e6n 1eke-1 1eke-1"

/-- Controls, formats, separators, fillers and characters of private use, beyond ASCII. -/
def unprinted : CharSet := .ofText "3k-w c 11u-5 m 5c 1d ao-1 28 1oc-1 10f b1 1kh-b 1-2 o-7 1b-5 1-9 32o 9v yhn-4xr 16n 4g 2g-2 3b5 f 6zm-f qxs-3
   43z-7 h406 1eke-1ekd 2-1ekd"

/-- Whether a character is shown as it is. -/
def isShown (c : Char) : Bool :=
  let n := c.toNat
  if n < 0x7F then 0x20 ≤ n
  else n ≠ 0x7F && !(unprinted.contains n || extendsSign n || unassigned.contains n)

/-- One character between quotes. -/
def quotedChar (c : Char) : List Char :=
  if c = '"' then ['\\', '"']
  else if c = '\\' then ['\\', '\\']
  else if c = '\n' then ['\\', 'n']
  else if c = '\r' then ['\\', 'r']
  else if c = '\t' then ['\\', 't']
  else if c.toNat = 0 then ['\\', '0']
  else if isShown c then [c]
  else '\\' :: 'u' :: '\x7b' :: (Nat.toDigits 16 c.toNat ++ ['\x7d'])

/-- The text between quotes. -/
def quoted (s : String) : String :=
  String.ofList ('"' :: (s.toList.flatMap quotedChar ++ ['"']))

end Rollout.Text
