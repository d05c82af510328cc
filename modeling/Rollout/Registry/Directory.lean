import Rollout.Json.Decode
import Rollout.Json.Printer
import Rollout.World.Disk

/-!
# Rollout.Registry.Directory — documents in a directory

Each document is a file of its own, named after its key.  A document is written to a temporary file, which then
takes the place of the document in one step.  The temporary file is filled by write-behind, so it may take that place
although not all of the text was written.

* `Directory.fileFor`: the file of a key; keys that could lead out of the directory have none.
* `Directory.get`, `Directory.put`, `Directory.delete`.
-/

namespace Rollout

namespace Directory

/-- Where documents are kept when no directory is configured, seen from the current directory. -/
def defaultName : Path := ".converge/registry"

def isKeyChar (c : Char) : Bool :=
  ('a' ≤ c && c ≤ 'z') || ('A' ≤ c && c ≤ 'Z') || ('0' ≤ c && c ≤ '9') || c = '-' || c = '_' || c = '.'

/-- Whether a key can name a file: letters, digits, `-`, `_` and points, with no point in front. -/
def isKey (key : String) : Bool :=
  key ≠ "" && key.toList.head? ≠ some '.' && key.toList.all isKeyChar

/-- The file of a key. -/
def fileFor (dir : Path) (key : String) : Except Fault Path :=
  if isKey key then .ok (dir.join (key ++ ".json")) else .error (.registry (.invalidKey key))

/-- The file that a document is first written to. -/
def temporary (dir : Path) (key : String) : Path := dir.join (key ++ ".tmp")

def transport (what : String) (e : OsFault) : Fault := .registry (.transport (what ++ ": " ++ e.message))

variable {σ : Type} [Host σ]

/-- Goes on after a step on files, or ends with what could not be done. -/
def orFail (what : String) (x : Act σ (Except OsFault α)) : Act σ α := do
  match ← x with
  | .ok a => return a
  | .error e => Act.fail (transport what e)

/-- The document of a key. -/
def get (dir : Path) (key : String) : Act σ (Option Json) := do
  let path ← Act.ofExcept (fileFor dir key)
  if ← Disk.contains path then
    let text ← orFail ("Failed to read " ++ path) (Disk.read path)
    match Json.ofText text with
    | .ok value => return some value
    | .error e => Act.fail (.registry (.corrupted key e.message))
  else return none

/-- Makes the directory if it is missing. -/
def ensure (dir : Path) : Act σ Unit := do
  if ← Disk.contains dir then return ()
  else orFail "Failed to create registry directory" (Disk.makeDirs dir)

/-- Writes the document of a key. -/
def put (dir : Path) (key : String) (value : Json) : Act σ Unit := do
  let path ← Act.ofExcept (fileFor dir key)
  ensure dir
  let temp := temporary dir key
  orFail "Failed to create temp file" (Disk.step (.create temp))
  orFail "Failed to write entry" (Disk.fillBehind temp value.pretty)
  orFail "Failed to sync entry" (Disk.step (.sync temp))
  orFail "Failed to rename entry" (Disk.step (.rename temp path))

/-- Removes the document of a key. -/
def delete (dir : Path) (key : String) : Act σ Unit := do
  let path ← Act.ofExcept (fileFor dir key)
  if ← Disk.contains path then orFail "Failed to delete entry" (Disk.step (.remove path))
  else Act.fail (.registry (.notFound key))

end Directory

end Rollout
