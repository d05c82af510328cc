import Rollout.Number.Basic
import Rollout.Table

/-!
# Rollout.Json — document values

The dynamic values that configuration, registries and programs exchange.

* `Json`: the value type.  An object lists its members in the order they are written; reading and
  `Json.ofTable` give rising keys, and records that are printed in a fixed order list them in that order.
* `Json.same`: equality of documents, under which the two floating zeros coincide.
* `Json.asTable?`: the members of an object as a table.
-/

namespace Rollout

/-- A document value. -/
inductive Json
  | null
  | bool (value : Bool)
  | num (value : Number)
  | str (value : String)
  | arr (items : List Json)
  | obj (members : List (String × Json))
deriving Repr, Inhabited

namespace Json

/-- An integer as a document. -/
def int (i : Int) : Json := .num (.int i)

/-- A count as a document. -/
def nat (n : Nat) : Json := .num (.int n)

/-- A list of texts as a document. -/
def strs (items : List String) : Json := .arr (items.map .str)

/-- The object with the members of a table. -/
def ofTable (t : Table Json) : Json := .obj t.entries

/-- The object of a member list, by rising key; of two members with one key the later stays. -/
def ofEntries (members : List (String × Json)) : Json := ofTable (Table.ofList members)

/-- An object without the members that are absent. -/
def record (members : List (String × Option Json)) : Json :=
  .obj (members.filterMap fun (k, v) => v.map (k, ·))

/-- `none` as `null`. -/
def ofOption (f : α → Json) : Option α → Json
  | none => .null
  | some a => f a

def isNull : Json → Bool
  | null => true
  | _ => false

def asStr? : Json → Option String
  | str s => some s
  | _ => none

/-- The members of an object as a table. -/
def asTable? : Json → Option (Table Json)
  | obj members => some (Table.ofList members)
  | _ => none

/-- The member of an object under `k`. -/
def get? (k : String) : Json → Option Json
  | obj members => Entries.get? k members
  | _ => none

mutual

/-- Equality of documents; integers and floats differ, the two floating zeros do not. -/
def same : Json → Json → Bool
  | null, null => true
  | bool a, bool b => a = b
  | num a, num b => a.same b
  | str a, str b => a = b
  | arr a, arr b => sameItems a b
  | obj a, obj b => sameMembers a b
  | _, _ => false

/-- Equality of item lists. -/
def sameItems : List Json → List Json → Bool
  | [], [] => true
  | a :: as, b :: bs => same a b && sameItems as bs
  | _, _ => false

/-- Equality of member lists. -/
def sameMembers : List (String × Json) → List (String × Json) → Bool
  | [], [] => true
  | (k, a) :: as, (k', b) :: bs => k = k' && (same a b && sameMembers as bs)
  | _, _ => false

end

mutual

/-- Whether every object in the document lists its keys rising. -/
def sorted : Json → Prop
  | arr items => sortedItems items
  | obj members => Entries.Rising members ∧ sortedMembers members
  | _ => True

/-- Whether every item is sorted. -/
def sortedItems : List Json → Prop
  | [] => True
  | a :: as => sorted a ∧ sortedItems as

/-- Whether every member's value is sorted. -/
def sortedMembers : List (String × Json) → Prop
  | [] => True
  | (_, a) :: as => sorted a ∧ sortedMembers as

end

end Json

namespace Table

/-- Equality of tables of documents. -/
def same (a b : Table Json) : Bool := Json.sameMembers a.entries b.entries

end Table

end Rollout
