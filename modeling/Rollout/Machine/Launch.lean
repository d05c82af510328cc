import Rollout.Command
import Rollout.Files.Tree

/-!
# Rollout.Machine.Launch — whether a program can be started

A program is started in a directory that must be there.  A name without a slash is looked up among the programs of
the machine, or in the directories that the command names for that; anything else is a path, and files that only hold
text cannot be run.

* `Machine.obstacle?`: what is in the way of starting a command.
-/

namespace Rollout.Machine

/-- What is in the way of entering a directory. -/
def entryObstacle? (files : FileTree) (place : Except OsFault String) : Option OsFault :=
  match place with
  | .error e => some e
  | .ok place => match files.node? place with
    | some .directory => none
    | some (.file _) => some .notDirectory
    | none => some .notFound

/-- What is in the way of running what stands at a path: no file or directory can be run. -/
def pathObstacle (files : FileTree) (here : String) (p : Path) : OsFault :=
  match files.locate here p with
  | .error e => e
  | .ok target => if (files.node? target).isSome then .permission else .notFound

/-- What is in the way of a program that is looked up by its name in some directories. -/
def searchObstacle? (programs : List String) (files : FileTree) (here : String) (name : String)
    (dirs : List Path) : Option OsFault :=
  let paths := dirs.map fun dir => if dir = "" then name else dir ++ "/" ++ name
  if paths.any programs.contains then none
  else if paths.any fun p => pathObstacle files here p = .permission then some .permission
  else some .notFound

/-- What is in the way of a program that is looked up by its name. -/
def nameObstacle? (programs : List String) (files : FileTree) (here : String) (c : Command) : Option OsFault :=
  let name := c.program
  if name = "" then some .notFound
  else if FileTree.maxName < Text.byteLength name then some .nameTooLong
  else match c.env.get? "PATH" with
    | some path =>
      searchObstacle? programs files here name ((Text.splitAt ':' path.toList).map String.ofList)
    | none =>
      if programs.contains name then none
      else if name = "." ∨ name = ".." then some .permission
      else some .notFound

/-- Whether a command holds the character that ends texts for the system. -/
def holdsNul (c : Command) : Bool :=
  let nul (s : String) : Bool := s.toList.contains (Char.ofNat 0)
  nul c.program || c.args.any nul || c.directory.any nul || c.env.entries.any fun (k, v) => nul k || nul v

/-- What is in the way of starting a command on a machine with some programs. -/
def obstacle? (programs : List String) (here : String) (files : FileTree) (c : Command) : Option OsFault :=
  let place := match c.directory with
    | some d => files.locate here d
    | none => .ok here
  if holdsNul c then some .nulInData
  else match entryObstacle? files place with
    | some e => some e
    | none =>
      let here := place.toOption.getD here
      if !c.program.toList.contains '/' then nameObstacle? programs files here c
      else if programs.contains c.program then none
      else some (pathObstacle files here c.program)

end Rollout.Machine
