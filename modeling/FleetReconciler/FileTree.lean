import FleetReconciler.Failure
import FleetReconciler.Path
import FleetReconciler.Table

/-!
# Files and directories

A tree of files and directories with the operations that the reconciler needs of it. Each fails for
the cause that the operating system gives.

* `FileTree.find` — what a path leads to;
* `FileTree.readText` — the text of a file;
* `FileTree.createDirectories` — a directory with all those above it;
* `FileTree.replace` — a file put in its place at once, over whatever file was there.
-/

namespace FleetReconciler

/-- A file with its text and its permissions, or a directory. -/
inductive FileNode where
  | file (text : String) (mode : Nat)
  | directory
  deriving DecidableEq

/-- Files and directories by their place. The working directory, those above it and the root are
always there. -/
structure FileTree where
  nodes : Table FileNode := []
  deriving DecidableEq

namespace FileTree

/-- The text by which a place is known. -/
def placeText (names : List String) : String := Text.joinWith "/" names

/-- What is at a place. -/
def node? (t : FileTree) (names : List String) : Option FileNode :=
  if names = ["/"] ∨ names.getLast?.all (· = "..") then some .directory
  else Table.get? (placeText names) t.nodes

/-- The tree with another node at a place. -/
def set (t : FileTree) (names : List String) (n : FileNode) : FileTree :=
  ⟨Table.insert (placeText names) n t.nodes⟩

/-- Checks that a name is not too long. -/
def checkName (name : String) : Except FileError Unit :=
  if name.utf8ByteSize > Path.maxNameLength then .error .nameTooLong else .ok ()

/-- Checks that a path can be given to the operating system. -/
def checkPath (path : String) : Except FileError Unit :=
  if path.toList.contains '\x00' then .error .nulInName
  else if path = "" then .error .notFound
  else if path.utf8ByteSize > Path.maxLength then .error .nameTooLong
  else .ok ()

/-- The directory to which a name leads from a directory. -/
def enter (t : FileTree) (place : List String) (name : String) :
    Except FileError (List String) := do
  let next := Path.follow place name
  if name = ".." then return next
  checkName name
  match t.node? next with
  | none => throw .notFound
  | some (.file ..) => throw .notADirectory
  | some .directory => return next

/-- The directory to which a path leads. -/
def directoryAt (t : FileTree) (path : String) : Except FileError (List String) :=
  (Path.names path).foldlM t.enter (Path.start path)

/-- The directory in which the last name of a path is looked up, and that name. None if the path
ends by going back or nowhere; then it leads to a directory, which is checked. -/
def lastStep? (t : FileTree) (path : String) :
    Except FileError (Option (List String × String)) := do
  let names := Path.names path
  match names.getLast? with
  | some name =>
    if name = ".." then
      let _ ← t.directoryAt path
      return none
    let place ← names.dropLast.foldlM t.enter (Path.start path)
    checkName name
    return some (place, name)
  | none => return none

/-- What a path leads to. -/
def find (t : FileTree) (path : String) : Except FileError FileNode := do
  checkPath path
  match ← t.lastStep? path with
  | none => return .directory
  | some (place, name) =>
    match t.node? (Path.follow place name) with
    | none => throw .notFound
    | some .directory => return .directory
    | some (.file text mode) =>
      if Path.ending path = .name then return .file text mode else throw .notADirectory

/-- Whether a path leads to anything. -/
def contains (t : FileTree) (path : String) : Bool :=
  match t.find path with
  | .ok _ => true
  | .error _ => false

/-- The text of a file. -/
def readText (t : FileTree) (path : String) : Except FileError String := do
  match ← t.find path with
  | .file text _ => return text
  | .directory => throw .isADirectory

/-- Makes the directories along a way, from a place that has been reached; `made` says whether one
was made before. -/
def makeDirectories (t : FileTree) (made : Bool) (place : List String) :
    List String → Except FileError Unit × FileTree
  | [] => (.ok (), t)
  | name :: rest =>
    let next := Path.follow place name
    match checkName name with
    | .error e => (.error e, t)
    | .ok () =>
      match t.node? next with
      | none => makeDirectories (t.set next .directory) true next rest
      | some .directory => makeDirectories t made next rest
      | some (.file ..) => (.error (if rest = [] ∨ made then .exists else .notADirectory), t)

/-- Makes a directory and all those above it, unless they are there. Those that are made before
something stands in the way stay. -/
def createDirectories (t : FileTree) (path : String) : Except FileError Unit × FileTree :=
  match checkPath path with
  | .error e => (.error e, t)
  | .ok () => t.makeDirectories false (Path.start path) (Path.names path)

/-- Puts a file in its place at once. -/
def replace (t : FileTree) (path text : String) (mode : Nat) : Except FileError FileTree := do
  (checkPath path).mapError fun e => if e = .nulInName then .invalidArgument else e
  match ← t.lastStep? path with
  | none => throw .busy
  | some (place, name) =>
    let target := Path.follow place name
    match Path.ending path with
    | .dot =>
      let _ ← t.enter place name
      throw .busy
    | .slash => throw .notADirectory
    | .name =>
      if t.node? target = some .directory then throw .isADirectory
      return t.set target (.file text mode)

/-- The tree of given files, with the directories that they need. Files that have no room are left
out. -/
def ofFiles (files : List (String × String)) (mode : Nat) : FileTree :=
  files.foldl (fun t (path, text) =>
    match t.createDirectories (Path.parent path) with
    | (.error _, t) => t
    | (.ok (), t) =>
      match t.replace path text mode with
      | .ok t => t
      | .error _ => t) {}

end FileTree

end FleetReconciler
