import Rollout.World.Basic

/-!
# Rollout.World.Disk — steps on files

Each step on files may be refused by the file tree or disturbed by the host; a write that is disturbed may leave the
first part of its text behind.  Larger operations are rows of steps, so that one can stop between any two.

* `Disk.step`: one step.
* `Disk.write`: creates and fills a file.
* `Disk.fillBehind`: fills a file by write-behind, which does not always tell what goes wrong.
* `Disk.makeDirs`: makes a directory and those above it.
-/

namespace Rollout

/-- The first characters of a text. -/
def Disk.first (kept : Nat) (text : String) : String := String.ofList (text.toList.take kept)

namespace FileAction

/-- What a step does to the files. -/
def apply (files : FileTree) (here : String) : FileAction → Except OsFault FileTree
  | read p => (files.read here p).map fun _ => files
  | create p => files.write here p ""
  | fill p text => files.write here p text
  | sync _ => .ok files
  | rename source target => files.rename here source target
  | remove p => files.remove here p
  | makeDir p => files.makeDir here p

/-- What is left of a step that is disturbed.  A file holds a text, so what is left of one ends with a whole character. -/
def leave (files : FileTree) (here : String) (kept : Nat) : FileAction → FileTree
  | fill p text =>
    match files.write here p (Disk.first kept text) with
    | .ok files => files
    | .error _ => files
  | _ => files

end FileAction

namespace Disk

variable {σ : Type} [Host σ]

/-- One step on files. -/
def step (a : FileAction) : Act σ (Except OsFault Unit) := fun w =>
  let (disturbance, host) := Host.disturb a w.host
  let w := { w with host }.note (.file a)
  match disturbance with
  | some d => (.ok (.error d.fault), { w with files := a.leave w.files w.here d.kept })
  | none => match a.apply w.files w.here with
    | .ok files => (.ok (.ok ()), { w with files })
    | .error e => (.ok (.error e), w)

/-- Whether a path leads to something. -/
def contains (p : Path) : Act σ Bool := Act.asks fun w => w.files.contains w.here p

/-- The text of a file. -/
def read (p : Path) : Act σ (Except OsFault String) := do
  match ← step (.read p) with
  | .error e => return .error e
  | .ok _ => Act.asks fun w => w.files.read w.here p

/-- Makes a file hold a text. -/
def write (p : Path) (text : String) : Act σ (Except OsFault Unit) := do
  match ← step (.create p) with
  | .error e => return .error e
  | .ok _ => step (.fill p text)

/-- How many bytes of a text are handed over at a time to be written behind. -/
def bufferSize : Nat := 2 * 1024 * 1024

/-- Whether it is told that only the first characters of a text were written behind.  What goes wrong with a part of the
text is told when the next part is handed over, so of the last part it is not. -/
def isTold (text : String) (kept : Nat) : Bool :=
  ((first kept text).utf8ByteSize / bufferSize + 1) * bufferSize < text.utf8ByteSize

/-- Fills a file by write-behind. -/
def fillBehind (p : Path) (text : String) : Act σ (Except OsFault Unit) := fun w =>
  let untold := (Host.disturb (.fill p text) w.host).1.any fun d => !isTold text d.kept
  let (r, w) := step (.fill p text) w
  (if untold then .ok (.ok ()) else r, w)

/-- Makes the first of a row of directories, each above the one before it. -/
def makeDirsIn : List Path → Act σ (Except OsFault Unit)
  | [] => return .error (.other "failed to create whole tree")
  | p :: above =>
    if p = "" then return .ok ()
    else do
      let orThere (e : OsFault) : Act σ (Except OsFault Unit) := do
        if ← Act.asks fun w => w.files.containsDir w.here p then return .ok () else return .error e
      match ← step (.makeDir p) with
      | .ok _ => return .ok ()
      | .error .notFound =>
        match ← makeDirsIn above with
        | .error e => return .error e
        | .ok _ => match ← step (.makeDir p) with
          | .ok _ => return .ok ()
          | .error e => orThere e
      | .error e => orThere e

/-- Makes a directory and those above it that are missing. -/
def makeDirs (p : Path) : Act σ (Except OsFault Unit) := makeDirsIn p.lineage

end Disk

end Rollout
