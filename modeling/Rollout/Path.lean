/-!
# Rollout.Path — paths as texts

A path is kept as it is written.  Joining and taking the parent work on the text by the rules for slash-separated
paths; nothing is looked up in a file system.

* `Path.join`: an absolute second part replaces the first.
* `Path.parent?`: the path without its last component; doubled slashes and inner `.` components do not count.
* `Path.lineage`: a path and the paths above it.
* `Path.fileName?`: the last component.
-/

namespace Rollout

/-- A path as it is written. -/
abbrev Path := String

namespace Path

def isAbsolute (p : Path) : Bool := p.toList.head? = some '/'

/-- `b` seen from `a`. -/
def join (a b : Path) : Path :=
  if isAbsolute b then b
  else if a = "" then b
  else if a.toList.getLast? = some '/' then a ++ b
  else a ++ "/" ++ b

/-- The part of a reversed path that belongs to no component: slashes and inner `.` components.  `whole` is
what counts as the start of the path and is never dropped. -/
def dropIdle (fuel : Nat) (rev : List Char) : List Char :=
  match fuel, rev with
  | 0, rev => rev
  | fuel + 1, '/' :: rest => if rest = [] then rev else dropIdle fuel rest
  | fuel + 1, '.' :: '/' :: rest => dropIdle fuel ('/' :: rest)
  | _, rev => rev

/-- The path, reversed, without its last component; none if there is no component. -/
def parentRev? (rev : List Char) : Option (List Char) :=
  match dropIdle rev.length rev with
  | [] => none
  | ['/'] => none
  | rev => some (dropIdle rev.length (rev.dropWhile (· ≠ '/')))

/-- The path without its last component; none for the root and the empty path. -/
def parent? (p : Path) : Option Path :=
  (parentRev? p.toList.reverse).map fun rev => String.ofList rev.reverse

/-- A path and the paths above it, nearest first. -/
def lineage (p : Path) : List Path :=
  let rec go (fuel : Nat) (p : Path) : List Path :=
    match fuel, p.parent? with
    | fuel + 1, some q => p :: go fuel q
    | _, _ => [p]
  go p.length p

/-- The last component, unless it is `..` or there is none. -/
def fileName? (p : Path) : Option String :=
  match dropIdle p.length p.toList.reverse with
  | [] => none
  | rev =>
    let name := (rev.takeWhile (· ≠ '/')).reverse
    if name = [] ∨ name = ['.'] ∨ name = ['.', '.'] then none else some (String.ofList name)

end Path

end Rollout
