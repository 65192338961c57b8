import FleetReconciler.Command.Run
import Std.Time.DateTime.Timestamp

/-!
# The command line

Reads the files that a command needs, carries it out, writes the store file and prints. Requests
reach nobody: there is no network.
-/

namespace FleetReconciler

/-- The variables of the environment that are looked at. -/
def variableNames : List String := ["HOME", "GCE_BACKEND_CONFIG", "GCE_BACKEND_ACCESS_TOKEN"]

/-- The environment. -/
def readEnvironment : IO Environment := do
  let found ← variableNames.filterMapM fun name => do
    return (← IO.getEnv name).map fun value => (name, value)
  return { bindings := found }

/-- The time of day. -/
def readClock : IO Timestamp := do
  let nanos := (← Std.Time.Timestamp.now).toNanosecondsSinceUnixEpoch.val.toNat
  match Timestamp.ofClock? nanos with
  | some t => return t
  | none => throw (.userError "the clock is outside of the calendar")

/-- Adds the file at a path, if there is one. -/
def readFile (path : String) (files : List (String × String)) : IO (List (String × String)) := do
  try return (path, ← IO.FS.readFile path) :: files
  catch
    | .noFileOrDirectory .. => return files
    | e => throw e

/-- The files that an invocation needs, and the path of its store. -/
def readFiles (flags : Flags) (e : Environment) : IO (FileTree × String) := do
  let settingsFiles ← readFile (e.settingsPath flags.config) []
  let tree := FileTree.ofFiles settingsFiles FileStore.mode
  match Settings.load (e.settingsPath flags.config) tree with
  | .error _ => return (tree, "")
  | .ok settings =>
    let path := Reconciler.storePath flags settings e
    return (FileTree.ofFiles (← readFile path settingsFiles) FileStore.mode, path)

/-- The text of a file, if there is one. -/
def textOf? (files : FileTree) (path : String) : Option String := (files.readText path).toOption

/-- Writes the file at a path, if it has changed. -/
def writeFile (path : String) (before after : FileTree) : IO Unit := do
  match textOf? after path with
  | none => return
  | some text =>
    if textOf? before path = some text then return
    IO.FS.createDirAll (Path.parent path)
    let temporary := path ++ ".tmp"
    IO.FS.writeFile temporary text
    IO.setAccessRights temporary { user := { read := true, write := true } }
    IO.FS.rename temporary path

/-- The line for a notice. -/
def noticeLine (n : Notice) : String :=
  Text.joinWith " " (n.level.text :: n.message :: n.fields.map fun (name, s) => name ++ "=" ++ s)

/-- Writes to the log what the flags let through. -/
def writeLog (flags : Flags) (log : List Notice) : IO Unit :=
  (log.filter fun n => flags.shows n.level).forM fun n => IO.eprintln (noticeLine n)

/-- Reconciles second after second. -/
partial def reconcileFrom (flags : Flags) (path : String) (second : Nat) (r : Reconciler Unit) :
    IO Unit := do
  let before := r.session.files
  let r := r.live second
  writeLog flags r.session.log
  writeFile path before r.session.files
  IO.sleep 1000
  let session := { r.session with log := [], clock := ← readClock }
  reconcileFrom flags path (second + 1) { r with work := { r.work with state := session } }

/-- Runs an invocation and gives the exit code. -/
def runInvocation (i : Invocation) : IO UInt32 := do
  let environment ← readEnvironment
  let (files, path) ← readFiles i.flags environment
  let s : Surroundings Unit :=
    { environment, files, clock := ← readClock, transport := .offline, link := () }
  match i.command, Reconciler.open i.flags s with
  | .reconcile, .ok r =>
    reconcileFrom i.flags path 0 r.started
    return 0
  | _, _ =>
    let a := i.run 0 s
    writeLog i.flags a.log
    writeFile path files a.files
    IO.print a.outputText
    for e in a.errorText? do IO.eprintln e
    return a.exitCode.toUInt32

/-- Runs the command that some words ask for and gives the exit code. -/
def runWords (words : List String) : IO UInt32 :=
  match Invocation.ofWords words with
  | .ok i => runInvocation i
  | .error stop => do
    IO.print stop.outputText
    for e in stop.errorText? do IO.eprint e
    return stop.exitCode.toUInt32

end FleetReconciler

/-- The program. -/
def main (words : List String) : IO UInt32 := do
  try FleetReconciler.runWords words
  catch e =>
    IO.eprintln ("Error: " ++ toString e)
    return 1
