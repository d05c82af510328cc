import Rollout.Text.Width.Class

/-!
# Rollout.Text.Width — how many columns a text takes

On a terminal most characters take one column; ideographs, syllables and pictures take two, and marks that join
the character before or print nothing take none.  Tabs and other control characters count one.  Some characters take
less together than alone: pictures joined to one, and letters that are written as one sign.  A text is measured from
its end, so that each character sees what it is followed by.

* `Text.Following`: what a character is followed by.
* `Text.measure`: the columns that a character adds, and what it is to the one before.
* `Text.width`: the columns of a text.
-/

namespace Rollout.Text

/-- A letter that may be written as one sign with a letter before it. -/
inductive Ligating
  | alef
  | lamed
  | subscript
  | buginese
  /-- The same after the vowel that belongs to the sign. -/
  | bugineseVowel
  | tifinagh
  /-- The same after the sign that joins it. -/
  | tifinaghJoined
  | lisuTone
  | oldTurkic
  | kiratVowel
  | kiratVowels
deriving DecidableEq, Repr

/-- What a character is followed by. -/
inductive Following
  | nothing
  | lineFeed
  | modifier
  | indicator
  | indicators
  | emoji
  | wideForm
  /-- A picture that joins the one before, perhaps with the sign of a key between. -/
  | joined (key : Bool)
  /-- So many signs of regions before a picture that joins them. -/
  | joinedIndicators (count : Nat)
  /-- The end of a tag before such a picture, with so many letters or digits of it. -/
  | joinedTag (letters digits : Nat)
  /-- A letter, perhaps behind a sign that joins it. -/
  | letter (l : Ligating) (bound : Bool)
deriving DecidableEq, Repr

/-- A sign that selects how the character before it looks. -/
inductive Selector
  | emoji
  | plain
deriving DecidableEq, Repr

/-- What a character is followed by, behind a selector perhaps. -/
structure Context where
  selector : Option Selector
  next : Following
deriving DecidableEq, Repr

namespace Following

def isLetter : Following → Bool
  | letter .. => true
  | _ => false

def isJoined : Following → Bool
  | joined _ => true
  | _ => false

/-- Whether marks that select a form may stand between the letters of a sign without parting them. -/
def passesForms : Following → Bool
  | letter .alef _ => false
  | letter .. => true
  | _ => false

/-- What remains behind a selector. -/
def behind (s : Selector) (f : Following) : Following :=
  if f.isLetter || (s = .emoji && f.isJoined) then f else nothing

/-- A letter that can be joined, with its joining sign. -/
def bind : Following → Following
  | letter l _ => letter l true
  | f => f

end Following

open Following

/-- Marks that select a form of a letter, and the sign that joins letters. -/
def selectsForm (n : Nat) : Bool :=
  n = 0x34F || n = 0x17B4 || n = 0x17B5 || (0x180B ≤ n && n ≤ 0x180D) || n = 0x180F || n = 0x200D ||
    (0xFE00 ≤ n && n ≤ 0xFE0F) || (0xE0100 ≤ n && n ≤ 0xE01EF)

def isTifinagh (n : Nat) : Bool := (0x2D31 ≤ n && n ≤ 0x2D65) || n = 0x2D6F

def isLam (n : Nat) : Bool :=
  n = 0x644 || (0x6B5 ≤ n && n ≤ 0x6B8) || n = 0x76A || n = 0x8A6 || n = 0x8C7

def isAlef (n : Nat) : Bool :=
  [0x622, 0x623, 0x625, 0x627, 0x671, 0x672, 0x673, 0x675, 0x773, 0x774].contains n || (0x870 ≤ n && n ≤ 0x882)

/-- Letters that have a form below the line. -/
def hasSubscript (n : Nat) : Bool :=
  [(0x1780, 0x1782), (0x1784, 0x1787), (0x1789, 0x178C), (0x178E, 0x1793), (0x1795, 0x1798), (0x179B, 0x179D),
    (0x17A0, 0x17A0), (0x17A2, 0x17A2), (0x17A7, 0x17A7), (0x17AB, 0x17AC), (0x17AF, 0x17AF)].any
      fun (first, last) => first ≤ n && n ≤ last

/-- A character as what the one before it is followed by. -/
def asFollowing (n : Nat) : Following :=
  if isEmoji n then .emoji
  else if isModifier n then .modifier
  else if isIndicator n then .indicator
  else if n = 0xFE01 then .wideForm
  else if isAlef n then .letter .alef false
  else if n = 0x5DC then .letter .lamed false
  else if hasSubscript n then .letter .subscript false
  else if n = 0x1A10 then .letter .buginese false
  else if isTifinagh n then .letter .tifinagh false
  else if n = 0xA4FC || n = 0xA4FD then .letter .lisuTone false
  else if n = 0x10C03 then .letter .oldTurkic false
  else if n = 0x16D67 then .letter .kiratVowel false
  else if n = 0x16D68 then .letter .kiratVowels false
  else .nothing

/-- What a character adds where it is written as one sign with the letter after it. -/
def ligature? (l : Ligating) (bound : Bool) (n : Nat) : Option (Int × Following) :=
  match l, bound with
  | .alef, _ =>
    if isLam n then some (0, .nothing)
    else if columns n = 0 && joinsThrough n then some (0, .letter .alef false)
    else none
  | .lamed, true => if n = 0x5D0 then some (0, .nothing) else none
  | .subscript, _ => if n = 0x17D2 then some (-1, .nothing) else none
  | .buginese, true => if n = 0x1A17 then some (0, .letter .bugineseVowel true) else none
  | .bugineseVowel, _ => if n = 0x1A15 then some (0, .nothing) else none
  | .tifinagh, bound =>
    if n = 0x2D7F then some (1, .letter .tifinaghJoined true)
    else if bound && isTifinagh n then some (0, .nothing)
    else none
  | .tifinaghJoined, _ => if isTifinagh n then some (-1, .nothing) else none
  | .lisuTone, _ => if 0xA4F8 ≤ n && n ≤ 0xA4FB then some (0, .nothing) else none
  | .oldTurkic, true => if n = 0x10C32 then some (0, .nothing) else none
  | .kiratVowel, _ =>
    if n = 0x16D63 || n = 0x16D69 then some (0, .nothing)
    else if n = 0x16D67 then some (0, .letter .kiratVowels false)
    else if n = 0x16D68 then some (1, .letter .kiratVowel false)
    else none
  | .kiratVowels, _ => if n = 0x16D63 then some (0, .nothing) else none
  | _, false => none

/-- What a character adds where it forms one picture with what follows. -/
def picture? (f : Following) (n : Nat) : Option (Int × Following) :=
  let joiner := n = 0x200D
  match f with
  | .modifier => if isEmojiBase n then some (0, .emoji) else if joiner then some (0, .joined false) else none
  | .indicator => if isIndicator n then some (1, .indicators) else none
  | .indicators =>
    if isIndicator n then some (1, .indicators) else if joiner then some (0, .joined false) else none
  | .emoji => if joiner then some (0, .joined false) else none
  | .joined key =>
    if key then none
    else if n = 0x20E3 then some (0, .joined true)
    else if isIndicator n then some (1, .joinedIndicators 1)
    else if isModifier n then some (0, .modifier)
    else if n = 0xE007F then some (0, .joinedTag 0 0)
    else if isEmoji n then some (0, .emoji)
    else none
  | .joinedIndicators count =>
    if isIndicator n then some (if count % 2 = 1 then -1 else 3, .joinedIndicators (count + 1))
    else if joiner && 1 < count then some (0, .joined false)
    else none
  | .joinedTag letters digits =>
    if 0xE0061 ≤ n && n ≤ 0xE007A && digits = 0 && letters < 6 then some (0, .joinedTag (letters + 1) 0)
    else if 0xE0030 ≤ n && n ≤ 0xE0039 && letters < 5 && digits < 3 then some (0, .joinedTag letters (digits + 1))
    else if n = 0x1F3F4 && (digits = 3 || (digits = 0 && 3 ≤ letters)) then some (0, .emoji)
    else none
  | .wideForm =>
    if n = 0x2018 || n = 0x2019 || n = 0x201C || n = 0x201D then some (2, .nothing) else none
  | _ => none

/-- The columns that a character adds in front of what follows it, no selector between, and what it is to the
character before. -/
def measureBare (f : Following) (n : Nat) : Int × Following :=
  let alone : Int × Following := (columns n, asFollowing n)
  match f with
  | .letter l bound =>
    if f.passesForms && n = 0x200D then (0, f.bind)
    else if f.passesForms && selectsForm n then (0, f)
    else (ligature? l bound n).getD alone
  | f => (picture? f n).getD alone

/-- The columns that a character adds in front of what follows it, and what it is to the character before. -/
def measure (c : Context) (n : Nat) : Int × Context :=
  let bare (f : Following) : Int × Context := ((measureBare f n).1, ⟨none, (measureBare f n).2⟩)
  if c.selector = some .emoji && beginsEmoji n then (if c.next.isJoined then 0 else 2, ⟨none, .emoji⟩)
  else
    let next := if c.selector = some .emoji && !c.next.isLetter then .nothing else c.next
    if n ≤ 0xA0 then
      (if n = 0xD && next = .lineFeed then 0 else 1, ⟨none, if n = 0xA then .lineFeed else .nothing⟩)
    else if n = 0xFE0F then (0, ⟨some .emoji, next.behind .emoji⟩)
    else if n = 0xFE0E then (0, ⟨some .plain, next.behind .plain⟩)
    else if c.selector = some .plain && beginsPlain n then (1, ⟨none, .nothing⟩)
    else bare next

/-- The columns of a text. -/
def width (s : String) : Nat :=
  (s.toList.foldr (fun c (sum, context) =>
    let (more, context) := measure context c.toNat
    (sum + more, context)) ((0 : Int), Context.mk none .nothing)).1.toNat

end Rollout.Text
