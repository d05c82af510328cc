import Rollout.Files.Tree

/-!
# Rollout.Files.Listing — whole trees from texts and back

* `FileTree.withDir`, `FileTree.withFile`: the tree with one more directory or file and what it stands in.
* `FileTree.below`: the files below a place, by the path that leads there.
* `FileTree.changed`: the files that are new or have another text.
-/

namespace Rollout.FileTree

/-- The tree with a directory and those above it, from a place downwards. -/
def withDirs (t : FileTree) (place : String) : List String → FileTree × String
  | [] => (t, place)
  | c :: rest =>
    let place := place ++ "/" ++ c
    withDirs (t.put place .directory) place rest

/-- The tree with a directory. -/
def withDir (t : FileTree) (here : String) (p : Path) : FileTree :=
  (t.withDirs here ((components p).filter (· ≠ "."))).1

/-- The tree with a file. -/
def withFile (t : FileTree) (here : String) (p : Path) (text : String) : FileTree :=
  let cs := (components p).filter (· ≠ ".")
  let (t, place) := t.withDirs here cs.dropLast
  match cs.getLast? with
  | some name => t.put (place ++ "/" ++ name) (.file text)
  | none => t

/-- The tree that holds directories and files at paths seen from `here`. -/
def ofPaths (here : String) (dirs : List Path) (files : List (Path × String)) : FileTree :=
  let t := (empty.withDirs "" (components here)).1
  let t := dirs.foldl (fun t p => t.withDir here p) t
  files.foldl (fun t (p, text) => t.withFile here p text) t

/-- What is left of a text after its beginning. -/
def after? (start cs : List Char) : Option (List Char) :=
  if start.isPrefixOf cs then some (cs.drop start.length) else none

/-- The files below a place, by the path from there. -/
def below (t : FileTree) (place : String) : Table String :=
  Table.ofList (t.nodes.entries.filterMap fun (k, n) =>
    match after? (place ++ "/").toList k.toList, n with
    | some rest, .file text => some (String.ofList rest, text)
    | _, _ => none)

/-- The files below a place that were not there before, or had another text. -/
def changed (before now : FileTree) (place : String) : Table String :=
  let old := before.below place
  (now.below place).filter fun p text => old.get? p ≠ some text

end Rollout.FileTree
