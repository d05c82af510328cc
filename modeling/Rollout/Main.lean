import Rollout.Cli.Run
import Rollout.Files.Listing
import Rollout.Machine.Basic
import Std.Time.Zoned

/-!
# Rollout.Main — the tool on a real machine

The tool takes a picture of the files it may need, carries out its command line in that picture, writes back what
changed and prints what was said.  It starts no programs and reaches no servers, so an operation that needs one
fails as it would on a machine where the program is missing.
-/

namespace Rollout.Main

/-- The variables of the environment that have a meaning for the tool. -/
def variableNames : List String :=
  ["CONVERGE_CONFIG", "CONVERGE_LOG_FORMAT", "CONVERGE_REGISTRY_ADDRESS", "CONVERGE_PROVISIONER_BINARY",
    "CONVERGE_ORCHESTRATOR_MODEL", "XDG_CONFIG_HOME", "HOME", "TF_LOG", "CLICOLOR_FORCE"]

/-- Those variables that are set. -/
def environment : IO (Table String) := do
  let values ← variableNames.filterMapM fun name => do return (← IO.getEnv name).map fun v => (name, v)
  return Table.ofList values

/-- Adds a directory, and the directories and text files below it, to a picture; what cannot be read is left out. -/
def addBelow (picture : FileTree) (dir : String) : IO FileTree := do
  let root := (← IO.currentDir) / dir
  let mut picture := picture
  if ← root.isDir then
    picture := picture.withDir "" root.toString
    for path in ← root.walkDir do
      if ← path.isDir then picture := picture.withDir "" path.toString
      else match ← (IO.FS.readFile path).toBaseIO with
        | .ok text => picture := picture.withFile "" path.toString text
        | .error _ => pure ()
  return picture

/-- The directories whose files a command line may need. -/
def places (here : String) (env : Table String) (args : List String) : List String :=
  let named := match Cli.Invocation.ofArgs env args with
    | .ok i => (i.config.bind Path.parent?).map (Path.join here)
    | .error _ => none
  [here] ++ named.toList ++ ((Config.userDir? env).map fun dir => Path.join dir "converge").toList

/-- The text that the operator is going to be asked for. -/
def answerOf (env : Table String) (args : List String) : IO String := do
  match Cli.Invocation.ofArgs env args with
  | .ok i => if i.operation.asks then (← IO.getStdin).getLine else return ""
  | .error _ => return ""

/-- The present. -/
def present : IO Instant := do
  let now ← Std.Time.Timestamp.now
  let epoch : Instant := ⟨0, 0, 0⟩
  return epoch.after (Span.ofSeconds now.toSecondsSinceUnixEpoch.val.toNat)

/-- How far the local time is ahead of the universal one; not at all where that is not known. -/
def zone : IO (Instant → Int) := do
  match ← Std.Time.Database.defaultGetLocalZoneRules.toBaseIO with
  | .ok rules => return fun t =>
    (rules.timezoneAt (.ofSecondsSinceUnixEpoch (.ofInt (t.day * 86400 + t.second)))).offset.second.val
  | .error _ => return fun _ => 0

/-- Writes back what changed between two pictures. -/
def writeBack (before after : FileTree) : IO Unit := do
  for (path, text) in (FileTree.changed before after "").entries do
    let file := (← IO.currentDir) / ("/" ++ path)
    if let some dir := file.parent then IO.FS.createDirAll dir
    IO.FS.writeFile file text
  for (path, _) in (before.below "").entries do
    if !(after.below "").contains path then IO.FS.removeFile ("/" ++ path)

/-- Carries out a command line and gives the exit code. -/
def run (args : List String) : IO UInt32 := do
  let here := (← IO.currentDir).toString
  let env ← environment
  let files ← (places here env args).foldlM addBelow FileTree.empty
  let holder := ((← IO.getEnv "USER").getD "unknown") ++ "@" ++ ((← IO.getEnv "HOSTNAME").getD "unknown")
  let start := World.start Machine.bare here files
  let (code, w) := Cli.run args
    { start with env, holder, started := ← present, zone := ← zone, input := ← answerOf env args }
  writeBack files w.files
  (← IO.getStdout).putStr (Cli.printed w.log)
  (← IO.getStderr).putStr (Cli.shown (Cli.isColored w.env) w.log)
  return code.toUInt32

end Rollout.Main

/-- Carries out the command line. -/
def main (args : List String) : IO UInt32 := Rollout.Main.run args
