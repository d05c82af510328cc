import Rollout.Path
import Rollout.Table
import Rollout.Text.Search
import Rollout.Text.Utf8

/-!
# Rollout.Files.Tree — files and directories

A file tree maps places to files and directories.  A place is the absolute path of a file or directory without
`.`, `..` or doubled slashes; the root is the empty place and always a directory.

* `FileTree.locate`: the place a path leads to, walking it component by component.
* `FileTree.read`, `write`, `truncate`, `makeDir`, `rename`, `remove`: one step each, with the refusals of a
  common operating system.
-/

namespace Rollout

/-- Why the operating system refuses. -/
inductive OsFault
  | notFound
  | permission
  | taken
  | notDirectory
  | isDirectory
  | nameTooLong
  | nulInName
  | nulInData
  | other (message : String)
deriving DecidableEq, Repr, Inhabited

/-- The wording of the operating system. -/
def OsFault.message : OsFault → String
  | notFound => "No such file or directory (os error 2)"
  | permission => "Permission denied (os error 13)"
  | taken => "File exists (os error 17)"
  | notDirectory => "Not a directory (os error 20)"
  | isDirectory => "Is a directory (os error 21)"
  | nameTooLong => "File name too long (os error 36)"
  | nulInName => "file name contained an unexpected NUL byte"
  | nulInData => "nul byte found in provided data"
  | other message => message

/-- What stands at a place. -/
inductive FileNode
  | file (text : String)
  | directory
deriving DecidableEq, Repr, Inhabited

/-- Files and directories by place. -/
structure FileTree where
  nodes : Table FileNode
deriving DecidableEq

namespace FileTree

def empty : FileTree := ⟨Table.empty⟩

instance : Inhabited FileTree := ⟨empty⟩

/-- What stands at a place. -/
def node? (t : FileTree) (place : String) : Option FileNode :=
  if place = "" then some .directory else t.nodes.get? place

def isDirectory (t : FileTree) (place : String) : Bool := t.node? place = some .directory

/-- The tree with something at a place. -/
def put (t : FileTree) (place : String) (n : FileNode) : FileTree := ⟨t.nodes.insert place n⟩

/-- The tree without what stands at a place. -/
def drop (t : FileTree) (place : String) : FileTree := ⟨t.nodes.erase place⟩

/-! ## Paths -/

/-- The components of a path: pieces that are not empty; a slash at the end asks for a directory. -/
def components (p : Path) : List String :=
  let all := Text.splitAt '/' p.toList
  let shown := (all.filter (· ≠ [])).map String.ofList
  if 1 < all.length ∧ all.getLast? = some [] then shown ++ ["."] else shown

/-- The place above. -/
def above (place : String) : String :=
  String.ofList (place.toList.reverse.dropWhile (· ≠ '/')).tail.reverse

/-- The longest name of a file, in bytes. -/
def maxName : Nat := 255

/-- The longest path, in bytes. -/
def maxPath : Nat := 4095

/-- Walks from a place along components; what the last one names need not be there. -/
def walk (t : FileTree) (place : String) : List String → Except OsFault String
  | [] => .ok place
  | c :: rest =>
    match t.node? place with
    | none => .error .notFound
    | some (.file _) => .error .notDirectory
    | some .directory =>
      if c = "." then walk t place rest
      else if c = ".." then walk t (above place) rest
      else if maxName < Text.byteLength c then .error .nameTooLong
      else walk t (place ++ "/" ++ c) rest

/-- The place a path leads to, seen from the place `here`. -/
def locate (t : FileTree) (here : String) (p : Path) : Except OsFault String :=
  if p.toList.contains (Char.ofNat 0) then .error .nulInName
  else if p = "" then .error .notFound
  else if maxPath < Text.byteLength p then .error .nameTooLong
  else walk t (if p.isAbsolute then "" else here) (components p)

/-! ## Steps -/

/-- Whether a path leads to something. -/
def contains (t : FileTree) (here : String) (p : Path) : Bool :=
  match t.locate here p with
  | .ok place => (t.node? place).isSome
  | .error _ => false

/-- Whether a path leads to a directory. -/
def containsDir (t : FileTree) (here : String) (p : Path) : Bool :=
  match t.locate here p with
  | .ok place => t.isDirectory place
  | .error _ => false

/-- The text of a file. -/
def read (t : FileTree) (here : String) (p : Path) : Except OsFault String := do
  match t.node? (← t.locate here p) with
  | some (.file text) => return text
  | some .directory => .error .isDirectory
  | none => .error .notFound

/-- Makes a file hold a text. -/
def write (t : FileTree) (here : String) (p : Path) (text : String) : Except OsFault FileTree := do
  let place ← t.locate here p
  if t.isDirectory place then .error .isDirectory
  else return t.put place (.file text)

/-- Makes a directory. -/
def makeDir (t : FileTree) (here : String) (p : Path) : Except OsFault FileTree := do
  let place ← t.locate here p
  if (t.node? place).isSome then .error .taken
  else return t.put place .directory

/-- Makes a file stand at another place instead of what was there. -/
def rename (t : FileTree) (here : String) (source target : Path) : Except OsFault FileTree := do
  let a ← t.locate here source
  let b ← t.locate here target
  match t.node? a with
  | some (.file text) =>
    if t.isDirectory b then .error .isDirectory else return (t.drop a).put b (.file text)
  | some .directory => .error .permission
  | none => .error .notFound

/-- Removes a file. -/
def remove (t : FileTree) (here : String) (p : Path) : Except OsFault FileTree := do
  let place ← t.locate here p
  match t.node? place with
  | some (.file _) => return t.drop place
  | some .directory => .error .isDirectory
  | none => .error .notFound

end FileTree

end Rollout
