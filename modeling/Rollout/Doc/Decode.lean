import Rollout.Doc.Source

/-!
# Rollout.Doc.Decode — typed decoding of documents

A decoder turns a document into a value of a type or says what is wrong with it.

* `Decoder.string`, `Decoder.bool`, `Decoder.u64`, …: scalars, lists, mappings and enumerations.
* `Decoder.skip`: passes over a document of which nothing is wanted.
* `Decoder.json`: a document as a value, whatever its kind.
* `Decoder.ofJson`: decodes a value in memory.
-/

namespace Rollout

namespace Decoder

open Reading (follow enter endAt fail failAround failAtAll turn)

/-! ## Scalars -/

/-- A text, given what to call it. -/
def text (expected : String) : Decoder String := fun doc => do
  match ← follow doc with
  | .str s => return s
  | .scalar s _ _ => return s
  | doc => fail (doc.mismatch expected)

def string : Decoder String := text "a string"

/-- A text that names a path. -/
def path : Decoder String := text "path string"

/-- The text of a scalar that may be read as of a kind: one without quotes, or a block that keeps its lines and
carries the tag of the kind. -/
def textOf? (kind : Tag) : Doc → Option String
  | .scalar s style tag => if style = .plain ∨ (style = .literal ∧ tag = some kind) then some s else none
  | _ => none

def bool : Decoder Bool := fun doc => do
  match ← follow doc with
  | .bool b => return b
  | doc => match (textOf? .truth doc).bind Scalar.boolWord? with
    | some b => return b
    | none => fail (doc.mismatch "a boolean")

/-- A natural number below `bound`. -/
def natBelow (bound : Nat) (expected : String) : Decoder Nat := fun doc => do
  match ← follow doc with
  | .num (.int i) =>
    if 0 ≤ i ∧ i < bound then return i.toNat else fail (.value (.num (.int i)) expected)
  | doc => match (textOf? .integer doc).bind fun s => Scalar.natural? s.toList with
    | some n => if n < bound then return n else fail (doc.mismatch expected)
    | none => fail (doc.mismatch expected)

def u64 : Decoder Nat := natBelow UInt64.size "u64"

def u32 : Decoder Nat := natBelow UInt32.size "u32"

/-- Nothing for `null`, otherwise a value. -/
def option (d : Decoder α) : Decoder (Option α) := fun doc => do
  match ← follow doc with
  | .null => return none
  | .broken flaw => fail (.text flaw.seen)
  | .scalar s .plain (some .nothing) =>
    if Scalar.isNullWord s then return none else failAround (.value (.str s) "null")
  | .scalar s .plain none =>
    if s = "" || Scalar.isNullWord s then return none else some <$> d (.scalar s .plain none)
  | doc => some <$> d doc

/-! ## Skipping -/

/-- The fault of a skipping reader at a flaw. -/
def skipPast : Option Flaw → Except DecodeFault Unit
  | some ⟨_, some fault⟩ => .error (.text fault)
  | _ => .ok ()

mutual

/-- Passes over a document; only what stops a skipping reader is a fault. -/
def skipped : Doc → Except DecodeFault Unit
  | .broken flaw => skipPast (some flaw)
  | .seq items stop => do
    skippedItems items
    skipPast stop
  | .map members stop => do
    skippedMembers members
    skipPast stop
  | _ => .ok ()

def skippedItems : List Doc → Except DecodeFault Unit
  | [] => .ok ()
  | a :: as => do
    skipped a
    skippedItems as

def skippedMembers : List (Doc × Doc) → Except DecodeFault Unit
  | [] => .ok ()
  | (k, a) :: as => do
    skipped k
    skipped a
    skippedMembers as

end

/-- A document of which nothing is wanted; its aliases are not followed. -/
def skip : Decoder Unit := fun doc => Reading.ofExcept (skipped doc)

/-! ## Whole values -/

/-- How a value is wanted: at once, or set aside before its type is known.  A value that is set aside takes no tag and
no integer that is too large, and its keys must stand for texts. -/
inductive Manner
  | direct
  | aside
deriving DecidableEq

/-- What is expected where any value may stand. -/
def Manner.expected : Manner → String
  | .direct => "any valid JSON value"
  | .aside => "any value"

/-- The fault of a tag, for which there is no value. -/
def Manner.tagFault : Manner → DecodeFault
  | .direct => .type .enumeration "any valid JSON value"
  | .aside => .custom "untagged and internally tagged enums do not support enum input"

/-- The key of a member, whatever its text stands for. -/
def key (expected : String) : Decoder String := text expected

/-- The key of a member of a value. -/
def valueKey (manner : Manner) : Decoder String := fun doc => do
  match manner, ← follow doc with
  | .aside, .scalar s style tag =>
    if Scalar.read? s style tag = some .text then return s
    else fail (doc.mismatch "a string key")
  | _, doc => key "a string key" doc

/-- The value of a scalar; there is none for an infinity. -/
def scalarValue (manner : Manner) (doc : Doc) (s : String) : Scalar → Reading Json
  | .null => return .null
  | .bool b => return .bool b
  | .num n => return .num n
  | .notFinite => return .null
  | .wide => fail (match manner with
    | .direct => .custom "JSON number out of range"
    | .aside => doc.mismatch manner.expected)
  | .text => return .str s

/-- The document as a value, with room for so many lists and objects in one another; of two members with one key the
later stays. -/
def valueWithin (manner : Manner) : Nat → Decoder Json
  | room, doc => do
    match ← follow doc with
    | .null => return .null
    | .bool b => return .bool b
    | .num n => return .num n
    | .str s => return .str s
    | .scalar s style tag => match Scalar.read? s style tag, tag with
      | some kind, _ => scalarValue manner (.scalar s style tag) s kind
      | none, some (.own _) => failAround manner.tagFault
      | none, _ => fail (doc.mismatch manner.expected)
    | .seq items stop => match room with
      | 0 => failAtAll (.text .tooDeep)
      | room + 1 => do
        let items ← items.zipIdx.mapM fun (item, index) => turn (.item index) (valueWithin manner room item)
        endAt stop
        return .arr items
    | .map members stop => match room with
      | 0 => failAtAll (.text .tooDeep)
      | room + 1 => do
        let members ← members.mapM fun (k, a) => do
          return (← valueKey manner k, ← turn (.to k) (valueWithin manner room a))
        endAt stop
        return Json.ofEntries members
    | .tagged .. => failAround manner.tagFault
    | .alias _ => failAtAll (.custom "unknown anchor")
    | .broken flaw => fail (.text flaw.seen)

/-- Any value. -/
def json : Decoder Json := fun doc => do valueWithin .direct (← read).room doc

/-- Any value that is set aside before its type is known. -/
def heldJson : Decoder Json := fun doc => do valueWithin .aside (← read).room doc

/-! ## Lists and mappings -/

def list (d : Decoder α) : Decoder (List α) := fun doc => do
  match (← follow doc).bare with
  | .seq items stop => enter do
    let items ← items.zipIdx.mapM fun (item, index) => turn (.item index) (d item)
    endAt stop
    return items
  | .scalar "" .plain _ => return []
  | doc => fail (doc.mismatch "a sequence")

/-- A mapping from texts; of two members with one key the later stays. -/
def table (d : Decoder α) : Decoder (Table α) := fun doc => do
  match (← follow doc).bare with
  | .map members stop => enter do
    let members ← members.mapM fun (k, a) => do return (← key "a string" k, ← turn (.to k) (d a))
    endAt stop
    return Table.ofList members
  | .scalar "" .plain _ => return Table.empty
  | doc => fail (doc.mismatch "a map")

/-! ## Enumerations -/

/-- A value given by its name, or by its name with nothing attached: a mapping from the name to nothing, or in a
configuration file a tag. -/
def enumeration (known : List (String × α)) : Decoder α := fun doc => do
  let named (refuse : DecodeFault → Reading α) (name : String) : Reading α :=
    match known.find? (·.1 = name) with
    | some (_, a) => return a
    | none => refuse (.variant name (known.map Prod.fst))
  match ← Reading.origin, ← follow doc with
  | _, .str s => named fail s
  | _, .scalar s style (some (.own name)) => do
    let a ← named failAround name
    if style = .plain && (s = "" || Scalar.isNullWord s) then return a else fail (.value (.str s) "null")
  | _, .scalar s _ _ => named fail s
  | _, .broken flaw => fail (.text flaw.seen)
  | .file, .tagged name body => do
    let _ ← named failAround name
    fail (body.mismatch "unit")
  | .file, doc => fail (doc.mismatch "a YAML tag starting with '!'")
  | _, .map [(.str name, body)] none => do
    let a ← named fail name
    if body.found = .null then return a else fail (body.mismatch "unit")
  | _, .map _ _ => fail (.value .map "map with a single key")
  | _, doc => fail (doc.mismatch "string or map")

/-- A decoder whose result passes a further check. -/
def refine (d : Decoder α) (f : α → Except String β) : Decoder β := fun doc => do
  match f (← d doc) with
  | .ok b => return b
  | .error message => fail (.custom message)

/-- Decodes a value in memory. -/
def ofJson (d : Decoder α) (j : Json) : Except DecodeFault α :=
  ((d j.toDoc).run (.plain .value) j.depth).mapError LocatedFault.fault

end Decoder

end Rollout
