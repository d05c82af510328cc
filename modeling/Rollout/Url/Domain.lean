import Rollout.Text.Search
import Rollout.Url.Domain.Direction
import Rollout.Url.Domain.Joining
import Rollout.Url.Domain.Mapping
import Rollout.Url.Domain.Punycode

/-!
# Rollout.Url.Domain — domain names outside ASCII

A domain name is looked up in ASCII.  Its characters are mapped and composed first; then each of its labels outside
ASCII is encoded, and a label that is encoded already is decoded to see that it is one that encoding could yield.

* `Domain.label?`: one label in both forms.
* `Domain.toAscii?`: the name in ASCII; none where a label is not allowed.
-/

namespace Rollout.Domain

/-- A label in ASCII and as it is read. -/
structure Label where
  ascii : List Char
  chars : List Nat
deriving DecidableEq, Repr, Inhabited

/-- What an encoded label begins with. -/
def encodedMark : List Char := ['x', 'n', '-', '-']

/-- The greatest length of a label that is encoded. -/
def maxPlain : Nat := 1000

/-- The greatest length of an encoded label behind its mark. -/
def maxEncoded : Nat := 2000

/-- Whether a label does not begin with a mark and joins no letters where none may be joined. -/
def isWellFormed (label : List Nat) : Bool := !label.head?.any Text.isMark && joinsRightly [] label

/-- The label of an encoded one: not all in ASCII, mapped and composed. -/
def decode? (code : List Char) : Option (List Nat) := do
  if maxEncoded < code.length || code.getLast? = some '-' then none
  let label ← Punycode.decode? code
  if label.all (· < 128) || normal? label ≠ some label then none
  return label

/-- A mapped label in both forms. -/
def label? (label : List Nat) : Option Label := do
  let cs := label.map Char.ofNat
  let l : Label ←
    if encodedMark.isPrefixOf cs then (decode? (cs.drop encodedMark.length)).map fun chars => ⟨cs, chars⟩
    else if label.all (· < 128) then some ⟨cs, label⟩
    else if maxPlain < label.length then none
    else some ⟨encodedMark ++ Punycode.encode label, label⟩
  if isWellFormed l.chars then some l else none

/-- A domain name in ASCII. -/
def toAscii? (cs : List Char) : Option (List Char) := do
  let mapped ← normal? (cs.map Char.toNat)
  let labels ← (Text.splitAt '.' (mapped.map Char.ofNat)).mapM fun l => label? (l.map Char.toNat)
  if isOrdered (labels.map Label.chars) then some (['.'].intercalate (labels.map Label.ascii)) else none

end Rollout.Domain
