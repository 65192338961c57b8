import FleetReconciler.Task
import FleetReconciler.Record.Decode
import FleetReconciler.Settings.Basic

/-!
# Failures

An operation fails for one `Cause`. On the way out each activity that could not be finished adds a
`Context`. The message of a failure names the contexts from the outermost in, and then the cause.
-/

namespace FleetReconciler

/-! ## Causes -/

/-- Failures of the store. -/
inductive StoreError where
  /-- Every attempt of a transaction was overtaken by another writer. -/
  | contention (kind : Kind) (id : String) (attempts : Nat)
  /-- A transaction made a record with another key than its own. -/
  | keyMismatch (kind : Kind) (id : String) (found : String)
  /-- A stored value is no record of its kind. -/
  | corrupt (kind : Kind) (id : String) (reason : DecodeError)
  deriving DecidableEq, Repr

/-- The wording of a store error. -/
def StoreError.message : StoreError → String
  | .contention kind id attempts =>
    "transaction on " ++ kind.name ++ " '" ++ id ++ "' gave up after " ++ Decimal.text attempts ++
      " conflicting attempts"
  | .keyMismatch kind id found =>
    "transaction on " ++ kind.name ++ " '" ++ id ++ "' produced a record keyed '" ++ found ++ "'"
  | .corrupt kind id reason =>
    "stored " ++ kind.name ++ " '" ++ id ++ "' is corrupt: " ++ reason.message

/-- Failures of the compute API. -/
inductive ComputeError where
  /-- The API answered with a status that is no success. -/
  | http (status : Nat) (message : String)
  /-- There was no answer. -/
  | transport (message : String)
  /-- The answer could not be understood. -/
  | decode (message : String)
  deriving DecidableEq, Repr

namespace ComputeError

/-- The wording of a compute error. -/
def message : ComputeError → String
  | .http status message =>
    "compute API returned HTTP " ++ Decimal.text status ++ ": " ++ message
  | .transport message => "compute API request failed: " ++ message
  | .decode message => "compute API response could not be decoded: " ++ message

/-- The HTTP status, if the API answered. -/
def status? : ComputeError → Option Nat
  | .http status _ => some status
  | .transport _ | .decode _ => none

end ComputeError

/-- Failures of the file system, by the cause that the operating system gives. -/
inductive FileError where
  | notFound
  | exists
  | notADirectory
  | isADirectory
  | denied
  /-- What is there cannot be replaced. -/
  | busy
  | invalidArgument
  | nameTooLong
  /-- A name holds a NUL, so it cannot be given to the operating system. -/
  | nulInName
  deriving DecidableEq, Repr

/-- The wording of a file error. -/
def FileError.message : FileError → String
  | .notFound => "No such file or directory (os error 2)"
  | .denied => "Permission denied (os error 13)"
  | .busy => "Device or resource busy (os error 16)"
  | .exists => "File exists (os error 17)"
  | .notADirectory => "Not a directory (os error 20)"
  | .isADirectory => "Is a directory (os error 21)"
  | .invalidArgument => "Invalid argument (os error 22)"
  | .nameTooLong => "File name too long (os error 36)"
  | .nulInName => "file name contained an unexpected NUL byte"

/-- Why an operation fails. -/
inductive Cause where
  | store (error : StoreError)
  | compute (error : ComputeError)
  | setting (error : SettingError)
  | key (error : KeyError)
  | decode (error : DecodeError)
  | file (error : FileError)
  /-- Moving a finished temporary file to its place failed. -/
  | move (error : FileError)
  /-- A text does not follow the syntax of its format. -/
  | malformed
  /-- A transaction left no record where there was one. -/
  | removal (kind : Kind) (id : String)
  /-- The path of a URL names no instance. -/
  | unnamedInstance (url : String)
  /-- There is no record of an instance. -/
  | missingInstance (key : InstanceKey)
  /-- A member is given twice. -/
  | duplicate (name : String)
  /-- The listing of a group had more pages than the caller allows. -/
  | endlessListing
  /-- A collaborator failed for a reason of its own. -/
  | reported (text : String)
  deriving DecidableEq, Repr

/-- The wording of a cause; a syntax error has none. -/
def Cause.message? : Cause → Option String
  | .store e => some e.message
  | .compute e => some e.message
  | .setting e => some e.message
  | .key e => some e.message
  | .decode e => some e.message
  | .file e => some e.message
  | .move e =>
    some ("failed to persist temporary file: " ++ e.message ++ ": " ++ e.message)
  | .malformed => none
  | .removal kind id => some ("removing " ++ kind.name ++ " '" ++ id ++ "' is not supported")
  | .unnamedInstance url => some ("instance URL '" ++ url ++ "' has no instance name")
  | .missingInstance k => some ("instance " ++ EntityKey.text k ++ " does not exist")
  | .duplicate name => some ("duplicate field `" ++ name ++ "`")
  | .endlessListing => some "the listing does not end"
  | .reported text => some text

/-! ## Contexts -/

/-- What could not be finished. -/
inductive Context where
  | listing (group zone : String)
  | instanceUrl (url : String)
  | creating (key : InstanceKey)
  | recordingInstances (key : ManagerKey)
  | updatingInstances (key : ManagerKey)
  | marking (key : InstanceKey)
  | updatingLease (key : InstanceKey)
  | recordingSubscription (key : InstanceKey)
  | recordingDeletion (key : InstanceKey)
  | deleting (key : InstanceKey)
  | task (task : Task)
  | enqueueing (task : Task)
  | readingSettings (path : String)
  | parsingSettings (path : String)
  | checkingSettings (path : String)
  | loadingCredentials
  | openingStore (path : String)
  | readingStore (path : String)
  | parsingStore (path : String)
  | creatingDirectory (path : String)
  | creatingTemporary (directory : String)
  | writingTemporary (directory : String)
  | settingPermissions (directory : String)
  | finalizingStore (path : String)
  deriving DecidableEq, Repr

/-- The wording of a context. -/
def Context.text : Context → String
  | .listing group zone => "listing instances of " ++ group ++ " in " ++ zone
  | .instanceUrl url => "instance URL '" ++ url ++ "'"
  | .creating key => "creating instance " ++ EntityKey.text key
  | .recordingInstances key => "recording instances of " ++ EntityKey.text key
  | .updatingInstances key => "updating instances of " ++ EntityKey.text key
  | .marking key => "marking " ++ EntityKey.text key ++ " for deletion"
  | .updatingLease key => "updating lease of " ++ EntityKey.text key
  | .recordingSubscription key => "recording subscription of " ++ EntityKey.text key
  | .recordingDeletion key => "recording deletion time of " ++ EntityKey.text key
  | .deleting key => "deleting instance " ++ EntityKey.text key
  | .task t => "task " ++ t.text ++ " failed"
  | .enqueueing t => "enqueueing " ++ t.text
  | .readingSettings path => "cannot read " ++ path
  | .parsingSettings path => "cannot parse " ++ path
  | .checkingSettings path => "invalid configuration in " ++ path
  | .loadingCredentials => "failed to load credentials from GCE_BACKEND_* env vars"
  | .openingStore path => "cannot open entity store " ++ path
  | .readingStore path => "reading store file " ++ path
  | .parsingStore path => "parsing store file " ++ path
  | .creatingDirectory path => "creating directory " ++ path
  | .creatingTemporary path => "creating temp file in " ++ path
  | .writingTemporary path => "writing temp file in " ++ path
  | .settingPermissions path => "setting permissions on temp file in " ++ path
  | .finalizingStore path => "finalizing store file " ++ path

/-! ## Failures -/

/-- A cause with the contexts around it, the outermost first. -/
structure Failure where
  contexts : List Context := []
  cause : Cause
  deriving DecidableEq, Repr

namespace Failure

/-- The failure of a cause alone. -/
def of (cause : Cause) : Failure := { cause }

/-- The failure seen from an activity around it. -/
def within (f : Failure) (context : Context) : Failure :=
  { f with contexts := context :: f.contexts }

/-- The wording of a failure. -/
def message (f : Failure) : String :=
  Text.joinWith ": " (f.contexts.map Context.text ++ f.cause.message?.toList)

end Failure

/-- Adds a context to a failed result. -/
def inContext {α : Type} (context : Context) (r : Except Failure α) : Except Failure α :=
  r.mapError (·.within context)

end FleetReconciler
