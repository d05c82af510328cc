import Rollout.Doc.Fault

/-!
# Rollout.Doc.Source — what a document is read against

A document is read against its source: the nodes that its aliases stand for, and how deep lists and mappings may
stand in one another.  A node of a file may hold an alias of itself, so aliases are counted as they are followed,
and there is a limit to them.

* `Source`: where a document comes from.
* `Reading`: a step of decoding, which knows the source, the way to its part and the room left and counts the aliases
  followed.
* `Reading.follow`, `Reading.enter`, `Reading.turn`: to the node of an alias, into a list or mapping, and to a part.
-/

namespace Rollout

/-- Where a document comes from, the nodes that its aliases stand for, by number, and how many aliases may be
followed. -/
structure Source where
  origin : Origin
  nodes : List (Nat × Doc)
  limit : Nat
deriving Inhabited

/-- A source without aliases. -/
def Source.plain (origin : Origin) : Source := ⟨origin, [], 0⟩

/-- The node of a number. -/
def Source.node? (s : Source) (n : Nat) : Option Doc := (s.nodes.find? (·.1 = n)).map Prod.snd

/-- The source of a document, how many lists and mappings may still be entered, and the way there, the last turn
first. -/
structure Place where
  source : Source
  room : Nat
  way : List Turn

/-- A step of decoding: it knows its place and counts the aliases followed. -/
abbrev Reading := ReaderT Place (StateT Nat (Except LocatedFault))

/-- A decoder of a type. -/
abbrev Decoder (α : Type) := Doc → Reading α

namespace Reading

/-- A fault of the part at hand. -/
def fail (fault : DecodeFault) : Reading α := do throw ⟨(← read).way, fault⟩

/-- A fault that only what is around the part at hand reports. -/
def failAround (fault : DecodeFault) : Reading α := do throw ⟨(← read).way.tail, fault⟩

/-- A fault of the document as a whole. -/
def failAtAll (fault : DecodeFault) : Reading α := throw ⟨[], fault⟩

/-- A result that may be a fault of the part at hand. -/
def ofExcept : Except DecodeFault α → Reading α
  | .ok a => return a
  | .error fault => fail fault

/-- Where the document comes from. -/
def origin : Reading Origin := do return (← read).source.origin

/-- The node of an alias; any other document stands for itself. -/
def follow : Doc → Reading Doc
  | .alias node => do
    let source := (← read).source
    let followed ← get
    if source.limit ≤ followed then failAtAll (.custom "repetition limit exceeded")
    set (followed + 1)
    match source.node? node with
    | some doc => return doc
    | none => failAtAll (.custom "unknown anchor")
  | doc => return doc

/-- Goes into a list or mapping, if there is room. -/
def enter (x : Reading α) : Reading α := fun place =>
  match place.room with
  | 0 => throw ⟨[], .text .tooDeep⟩
  | room + 1 => x { place with room }

/-- Goes to a part of the document. -/
def turn (t : Turn) (x : Reading α) : Reading α := fun place => x { place with way := t :: place.way }

/-- The fault at the end of a list or mapping. -/
def endAt : Option Flaw → Reading Unit
  | some flaw => fail (.text flaw.seen)
  | none => return ()

/-- Runs a step against a source, with room for so many lists and mappings in one another. -/
def run (x : Reading α) (source : Source) (room : Nat) : Except LocatedFault α :=
  (StateT.run (ReaderT.run x ⟨source, room, []⟩) 0).map Prod.fst

end Reading

end Rollout
