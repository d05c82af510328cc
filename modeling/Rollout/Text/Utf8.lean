/-!
# Rollout.Text.Utf8 — texts as bytes

* `Text.encode`: the bytes of a text.
* `Text.decode?`: the text of which they are the bytes.
* `Text.decodeLossy`: the text of bytes that need not be well-formed; each longest piece that could have begun a
  character, or a single byte that could not, becomes one replacement character.
-/

namespace Rollout.Text

/-- The bytes of one character. -/
def encodeChar (c : Char) : List UInt8 :=
  let n := c.toNat
  if n < 0x80 then [n.toUInt8]
  else if n < 0x800 then [(0xC0 + n / 64).toUInt8, (0x80 + n % 64).toUInt8]
  else if n < 0x10000 then
    [(0xE0 + n / 4096).toUInt8, (0x80 + n / 64 % 64).toUInt8, (0x80 + n % 64).toUInt8]
  else
    [(0xF0 + n / 262144).toUInt8, (0x80 + n / 4096 % 64).toUInt8, (0x80 + n / 64 % 64).toUInt8,
      (0x80 + n % 64).toUInt8]

/-- The bytes of a text. -/
def encode (s : String) : List UInt8 := s.toList.flatMap encodeChar

/-- What stands for bytes that form no character. -/
def replacement : Char := Char.ofNat 0xFFFD

/-- The number of bytes after a leading byte, and the range of the first of them. -/
def leadRange? (b : Nat) : Option (Nat × Nat × Nat) :=
  if 0xC2 ≤ b ∧ b ≤ 0xDF then some (1, 0x80, 0xBF)
  else if b = 0xE0 then some (2, 0xA0, 0xBF)
  else if b = 0xED then some (2, 0x80, 0x9F)
  else if 0xE1 ≤ b ∧ b ≤ 0xEF then some (2, 0x80, 0xBF)
  else if b = 0xF0 then some (3, 0x90, 0xBF)
  else if 0xF1 ≤ b ∧ b ≤ 0xF3 then some (3, 0x80, 0xBF)
  else if b = 0xF4 then some (3, 0x80, 0x8F)
  else none

/-- The state between two bytes: nothing pending, or the bits gathered, the bytes still owed and the range of
the next one. -/
inductive Pending
  | none
  | some (bits owed low high : Nat)

/-- Decodes bytes with some pending. -/
def decodeFrom : Pending → List UInt8 → List Char
  | .none, [] => []
  | .some .., [] => [replacement]
  | .none, b :: bs =>
    let n := b.toNat
    if n < 0x80 then Char.ofNat n :: decodeFrom .none bs
    else match leadRange? n with
      | Option.none => replacement :: decodeFrom .none bs
      | Option.some (owed, low, high) =>
        let bits := if owed = 1 then n - 0xC0 else if owed = 2 then n - 0xE0 else n - 0xF0
        decodeFrom (.some bits owed low high) bs
  | .some bits owed low high, b :: bs =>
    let n := b.toNat
    if low ≤ n ∧ n ≤ high then
      let bits := bits * 64 + (n - 0x80)
      if owed ≤ 1 then Char.ofNat bits :: decodeFrom .none bs
      else decodeFrom (.some bits (owed - 1) 0x80 0xBF) bs
    else if n < 0x80 then replacement :: Char.ofNat n :: decodeFrom .none bs
    else match leadRange? n with
      | Option.none => replacement :: replacement :: decodeFrom .none bs
      | Option.some (owed, low, high) =>
        let bits := if owed = 1 then n - 0xC0 else if owed = 2 then n - 0xE0 else n - 0xF0
        replacement :: decodeFrom (.some bits owed low high) bs

/-- The text of bytes, with replacement characters where they form no character. -/
def decodeLossy (bytes : List UInt8) : String := String.ofList (decodeFrom .none bytes)

/-- The characters whose bytes these are; none if they are those of no text. -/
def decode? (bytes : List UInt8) : Option (List Char) :=
  let cs := decodeFrom .none bytes
  if cs.flatMap encodeChar = bytes then some cs else none

/-- The number of bytes of a text. -/
def byteLength (s : String) : Nat := (encode s).length

end Rollout.Text
