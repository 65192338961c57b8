import FleetReconciler.FileTree
import FleetReconciler.Json.Reader
import FleetReconciler.Store.Memory

/-!
# Records in a file

The records are kept in memory, and every write of a record is followed by a save of all of them to
a file. A save writes a temporary file beside the store file and moves it into its place, so the
store file is replaced as a whole or not at all.

* `FileStore.load` — the records of a store file;
* `FileStore.save` — the five operations of a save, each of which may fail;
* `FileStore.text` — the text of a store file.
-/

namespace FleetReconciler

/-- The operations of a save in their order. -/
inductive SaveStep where
  | createDirectory
  | createTemporary
  | writeTemporary
  | setPermissions
  | moveIntoPlace
  deriving DecidableEq, Repr

/-- An operation of a save that the operating system refuses, and why. -/
structure Refusal where
  step : SaveStep
  error : FileError
  deriving DecidableEq, Repr

/-- Records that are saved to a file. -/
structure FileStore where
  path : String
  memory : MemoryStore := {}
  deriving DecidableEq

namespace FileStore

/-- The permissions of a store file: its owner may read and write it. -/
def mode : Nat := 6 * 8 * 8

/-- The text of a store file. -/
def text (s : Snapshot) : String := s.encode.pretty

/-- The snapshot in the text of a store file. A blank text holds nothing. -/
def read? (text : String) : Option Snapshot :=
  if Text.isAllBlank text then some []
  else (Json.parse? text).bind fun j => (Snapshot.decode j).toOption

/-- Loads the store at a path. Where there is no file, the store is empty. -/
def load (path : String) (files : FileTree) : Except Failure FileStore :=
  if files.contains path then do
    let text ← inContext (.readingStore path)
      ((files.readText path).mapError fun e => .of (.file e))
    match read? text with
    | some s => return ⟨path, .ofSnapshot s⟩
    | none => throw ((Failure.of .malformed).within (.parsingStore path))
  else .ok ⟨path, {}⟩

/-- The error of an operation of a save, if it is the one that is refused. -/
def refused (refusal : Option Refusal) (step : SaveStep) : Except FileError Unit :=
  match refusal with
  | some r => if r.step = step then .error r.error else .ok ()
  | none => .ok ()

/-- Reports an operation of a save that has failed. -/
def reporting {α : Type} (context : Context) (cause : FileError → Cause) (r : Except FileError α) :
    Except Failure α :=
  r.mapError fun e => (Failure.of (cause e)).within context

/-- Replaces the store file by one that holds a snapshot. A directory that had to be made stays when
a later operation fails. -/
def replaceFile (path : String) (snapshot : Snapshot) (refusal : Option Refusal)
    (files : FileTree) : Except Failure Unit × FileTree :=
  let parent := Path.parent path
  let (made, files) := match refused refusal .createDirectory with
    | .error e => (.error e, files)
    | .ok () => files.createDirectories parent
  match reporting (.creatingDirectory parent) .file made with
  | .error f => (.error f, files)
  | .ok () =>
    let replaced := do
      reporting (.creatingTemporary parent) .file (refused refusal .createTemporary)
      reporting (.writingTemporary parent) .file (refused refusal .writeTemporary)
      reporting (.settingPermissions parent) .file (refused refusal .setPermissions)
      reporting (.finalizingStore path) .move do
        refused refusal .moveIntoPlace
        files.replace path (text snapshot) mode
    match replaced with
    | .error f => (.error f, files)
    | .ok files => (.ok (), files)

/-- Saves all records. -/
def save (s : FileStore) (refusal : Option Refusal) (files : FileTree) :
    Except Failure Unit × FileTree :=
  replaceFile s.path s.memory.snapshot refusal files

/-- Writes a record whatever is there, and saves. The record is in memory even if the save fails. -/
def put (s : FileStore) (kind : Kind) (id : String) (value : Json) (refusal : Option Refusal)
    (files : FileTree) : Except Failure Unit × FileStore × FileTree :=
  let s := { s with memory := s.memory.put kind id value }
  let (r, files) := s.save refusal files
  (r, s, files)

end FileStore

end FleetReconciler
