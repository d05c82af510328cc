import Rollout.Files.Tree

/-!
# Rollout.Machine.Pattern — texts that stand for others

In a pattern a star stands for any characters, a question mark for one, and brackets for one of those listed.  What is
quoted stands for itself.

* `Pattern.ofChars`: the pattern that is written; each character comes with a flag that tells whether it may have a meaning
  of its own.
* `Pattern.fits`: whether a text is one of those that a pattern stands for.
* `Pattern.names`: the paths that a pattern stands for.
-/

namespace Rollout

/-- A piece of a pattern. -/
inductive PatternPiece
  | any
  | one
  | among (negated : Bool) (ranges : List (Char × Char))
  | char (c : Char)
deriving DecidableEq, Repr, Inhabited

abbrev Pattern := List PatternPiece

namespace PatternPiece

/-- Whether a piece stands for a character. -/
def takes (c : Char) : PatternPiece → Bool
  | any => true
  | one => true
  | among negated ranges => (ranges.any fun (low, high) => low ≤ c && c ≤ high) ≠ negated
  | char d => c = d

end PatternPiece

namespace Pattern

/-- The ranges between brackets. -/
def rangesOf : List Char → List (Char × Char)
  | low :: '-' :: high :: cs => (low, high) :: rangesOf cs
  | c :: cs => (c, c) :: rangesOf cs
  | [] => []

/-- What stands between brackets, and the characters after them; the first one closes nothing. -/
def bracket? (cs : List (Char × Bool)) : Option (PatternPiece × List (Char × Bool)) :=
  let negated := cs.head?.any fun (c, _) => c = '!' || c = '^'
  let cs := if negated then cs.drop 1 else cs
  let inner := cs.take 1 ++ (cs.drop 1).takeWhile fun (c, _) => c ≠ ']'
  match cs.drop inner.length with
  | _ :: rest => some (.among negated (rangesOf (inner.map Prod.fst)), rest)
  | [] => none

/-- The pattern that at most `n` characters write. -/
def read : Nat → List (Char × Bool) → Pattern
  | 0, _ => []
  | _, [] => []
  | n + 1, (c, live) :: cs =>
    if !live then .char c :: read n cs
    else if c = '*' then .any :: read n cs
    else if c = '?' then .one :: read n cs
    else if c = '[' then match bracket? cs with
      | some (piece, rest) => piece :: read n rest
      | none => .char c :: read n cs
    else .char c :: read n cs

/-- The pattern that characters write. -/
def ofChars (cs : List (Char × Bool)) : Pattern := read cs.length cs

/-- Whether a pattern stands for more than itself. -/
def isLive (p : Pattern) : Bool := p.any fun
  | .char _ => false
  | _ => true

/-- Whether a text is one of those that a pattern stands for. -/
def fits : Pattern → List Char → Bool
  | [], cs => cs.isEmpty
  | .any :: p, [] => fits p []
  | .any :: p, c :: cs => fits p (c :: cs) || fits (.any :: p) cs
  | _ :: _, [] => false
  | piece :: p, c :: cs => piece.takes c && fits p cs
termination_by p cs => p.length + cs.length

/-- The names right below a place, rising. -/
def namesAt (files : FileTree) (place : String) : List String :=
  files.nodes.keys.filterMap fun k =>
    if (place ++ "/").toList.isPrefixOf k.toList then
      let name := k.toList.drop (place.length + 1)
      if name = [] ∨ name.contains '/' then none else some (String.ofList name)
    else none

/-- The names below a place that a pattern stands for; those that begin with a point have to be asked for. -/
def namesIn (files : FileTree) (place : String) (p : Pattern) : List String :=
  (namesAt files place).filter fun name =>
    fits p name.toList && (name.toList.head? ≠ some '.' || p.head? = some (.char '.'))

/-- The parts between slashes. -/
def parts : List (Char × Bool) → List (List (Char × Bool))
  | [] => [[]]
  | c :: cs =>
    match parts cs with
    | first :: rest => if c.1 = '/' then [] :: first :: rest else (c :: first) :: rest
    | [] => [[c]]

/-- The paths that begin with `start` and go on with the parts of a pattern. -/
def extend (files : FileTree) (here : String) (start : String) : List (List (Char × Bool)) → List String
  | [] => [start]
  | part :: rest =>
    let lead := if start = "" then "" else if start = "/" then "/" else start ++ "/"
    let p := ofChars part
    if part = [] ∧ start = "" then extend files here "/" rest
    else if p.isLive then
      match files.locate here (if start = "" then "." else start) with
      | .ok place => (namesIn files place p).flatMap fun name => extend files here (lead ++ name) rest
      | .error _ => []
    else extend files here (lead ++ String.ofList (part.map Prod.fst)) rest

/-- The paths that a pattern stands for, rising; without any it stands for itself. -/
def names (files : FileTree) (here : String) (cs : List (Char × Bool)) : List String :=
  let itself := String.ofList (cs.map Prod.fst)
  if (ofChars cs).isLive then
    match (extend files here "" (parts cs)).filter (files.contains here) with
    | [] => [itself]
    | found => found
  else [itself]

end Pattern

end Rollout
