import Rollout.Doc.Decode

/-!
# Rollout.Doc.Record — decoding of records

Records are decoded member by member in the order of the document, so the fault that stands first is the one
reported; absent members are looked for afterwards, in the order of the record.

* `Fields`: the members of a record, put together with `<*>`.
* `Fields.required`, `Fields.withDefault`, `Fields.optional`, `Fields.nullable`: single members.
* `Fields.closed`: a record; members of other names are passed over.
* `Fields.spread`: a record of which the members of other names are kept.
-/

namespace Rollout

/-- How the members of a record are given: by name, or as a list in the order of the record. -/
inductive Arrangement
  | byName
  | inOrder (names : List String) (expected : String)

/-- The fault of a member that is not there; a list is too short by the place of the member. -/
def Arrangement.absence (name : String) : Arrangement → DecodeFault
  | .byName => .missing name
  | .inOrder names expected => .length (names.idxOf name) expected

/-- A part of a record: the names of its members, what is held of them while the record is read, and how it is put
together in the end. -/
structure Fields (α : Type) where
  names : List String
  /-- What is held of the members seen so far. -/
  Held : Type
  /-- What is held before any member is seen. -/
  start : Held
  /-- Takes in a member, if it is of this part. -/
  take : Held → String → Doc → Option (Reading Held)
  build : Arrangement → Held → Except DecodeFault α

namespace Fields

open Reading (follow enter endAt fail turn)

/-- One member, and what to make of it once the record is read. -/
def one (name : String) (d : Decoder α) (build : Arrangement → Option α → Except DecodeFault β) : Fields β where
  names := [name]
  Held := Option α
  start := none
  take held k doc :=
    if k = name then
      some (match held with
        | some _ => Reading.failAround (.duplicate name)
        | none => some <$> d doc)
    else none
  build := build

/-- A member that has to be there. -/
def required (name : String) (d : Decoder α) : Fields α :=
  one name d fun given held => match held with
    | some a => .ok a
    | none => .error (given.absence name)

/-- A member with a value for the case that it is not there. -/
def withDefault (name : String) (d : Decoder α) (default : α) : Fields α :=
  one name d fun _ held => .ok (held.getD default)

/-- A member that may be absent or `null`. -/
def optional (name : String) (d : Decoder α) : Fields (Option α) := withDefault name d.option none

/-- A member that may be absent or `null`, but not left out of a list. -/
def nullable (name : String) (d : Decoder α) : Fields (Option α) :=
  one name d.option fun given held => match held, given with
    | some a, _ => .ok a
    | none, .byName => .ok none
    | none, given => .error (given.absence name)

instance : Applicative Fields where
  pure a := ⟨[], Unit, (), fun _ _ _ => none, fun _ _ => .ok a⟩
  seq f x :=
    { names := f.names ++ (x ()).names
      Held := f.Held × (x ()).Held
      start := (f.start, (x ()).start)
      take := fun (h, k) name doc => match f.take h name doc with
        | some taken => some do return (← taken, k)
        | none => ((x ()).take k name doc).map fun taken => do return (h, ← taken)
      build := fun given (h, k) => do
        let g ← f.build given h
        let a ← (x ()).build given k
        return g a }

/-- Walks the members in their order: those of the record are taken in, the others passed to `other`. -/
def walk (fields : Fields α) (other : β → String → Doc → Reading β) (held : fields.Held) (rest : β) :
    List (Doc × Doc) → Reading (fields.Held × β)
  | [] => return (held, rest)
  | (k, doc) :: more => do
    let name ← Decoder.key "field identifier" k
    match fields.take held name doc with
    | some taken => do walk fields other (← turn (.to k) taken) rest more
    | none => do walk fields other held (← turn (.to k) (other rest name doc)) more

/-- Items of a list take the names of the members in turn. -/
def walkItems (fields : Fields α) (held : fields.Held) : List String → List Doc → Reading fields.Held
  | name :: names, doc :: docs => do
    match fields.take held name doc with
    | some taken => do walkItems fields (← taken) names docs
    | none => walkItems fields held names docs
  | _, _ => return held

/-- The record of a mapping, with what `other` makes of the further members. -/
def ofMembers (fields : Fields α) (other : β → String → Doc → Reading β) (rest : β) (members : List (Doc × Doc))
    (stop : Option Flaw) : Reading (α × β) := enter do
  let (held, rest) ← walk fields other fields.start rest members
  endAt stop
  return (← Reading.ofExcept (fields.build .byName held), rest)

/-- What is wrong at the end of a list that has no more places. -/
def surplus (fault : TextFault) : TextFault :=
  if fault = .endInValue ∨ fault = .expectedCommaOrBracket then .trailingCharacters else fault

/-- The record of a list, whose items are as many as the members or fewer. -/
def ofItems (name : String) (fields : Fields α) (items : List Doc) (stop : Option Flaw) : Reading α := enter do
  let count := fields.names.length
  let held ← walkItems fields fields.start fields.names items
  if items.length < count then endAt stop
  let expected := "struct " ++ name ++ " with " ++ toString count ++ (if count = 1 then " element" else " elements")
  let result ← Reading.ofExcept (fields.build (.inOrder fields.names expected) held)
  if count < items.length then
    match ← Reading.origin with
    | .value => fail (.length items.length "fewer elements in array")
    | _ => fail (.text .trailingCharacters)
  else if items.length = count then
    match stop with
    | some flaw => fail (.text (surplus flaw.seen))
    | none => return result
  else return result

/-- A record without further members; those of other names are passed over.  Outside configuration files it may
be given as a list. -/
def closed (name : String) (fields : Fields α) : Decoder α := fun doc => do
  match ← Reading.origin, (← follow doc).bare with
  | _, .map members stop => do
    let (result, _) ← ofMembers fields (fun _ _ doc => Decoder.skip doc) () members stop
    return result
  | _, .scalar "" .plain _ => Reading.ofExcept (fields.build .byName fields.start)
  | .file, doc => fail (doc.mismatch ("struct " ++ name))
  | _, .seq items stop => ofItems name fields items stop
  | _, doc => fail (doc.mismatch ("struct " ++ name))

/-- A record whose members of other names are kept as values; it is always a mapping.  Of two members with one key
the later stays. -/
def spread (name : String) (fields : Fields α) : Decoder (α × Table Json) := fun doc => do
  let keep (kept : List (String × Json)) (name : String) (doc : Doc) : Reading (List (String × Json)) := do
    return (name, ← Decoder.heldJson doc) :: kept
  match (← follow doc).bare with
  | .map members stop => do
    let (result, kept) ← ofMembers fields keep [] members stop
    return (result, Table.ofList kept.reverse)
  | .scalar "" .plain _ => return (← Reading.ofExcept (fields.build .byName fields.start), Table.empty)
  | doc => fail (doc.mismatch ("struct " ++ name))

end Fields

end Rollout
