import FleetReconciler.Command.Reader
import FleetReconciler.Reconciler.Loop
import FleetReconciler.Settings.Codec

/-!
# Carrying out commands

What the commands do and what they print.

* `Statement` — an answer as JSON and in words, of which the flags choose one;
* `Command.carryOut` — the commands that need a reconciler;
* `Invocation.run` — every command, with all that it leaves behind.
-/

namespace FleetReconciler

/-- An answer as JSON and in words. -/
structure Statement where
  json : Json
  words : String

/-- The lines in which JSON is printed. -/
def printedJson (j : Json) : String := j.pretty ++ "\n"

/-- What is printed of an answer. -/
def Statement.print (flags : Flags) (s : Statement) : String :=
  if flags.json then printedJson s.json
  else if flags.quiet then ""
  else s.words ++ "\n"

namespace Statement

/-- The answer of a listing. -/
def ofUrls (urls : List String) : Statement := ⟨.strings urls, Text.joinWith "\n" urls⟩

/-- The answer of a change. -/
def ofChange (key : InstanceKey) (c : Change) : Statement :=
  ⟨.obj [("key", Encode.key key), ("result", .str c.text)], EntityKey.text key ++ ": " ++ c.text⟩

/-- The answer of a deletion: when the instance was deleted, if it was. -/
def ofDeletion (key : InstanceKey) (time : Option Timestamp) : Statement where
  json := .obj [
    ("key", Encode.key key),
    ("deletion_ts", (time.map fun t => Json.str t.zuluText).getD .null)]
  words := EntityKey.text key ++ ": " ++
    ((time.map fun t => "deleted at " ++ t.offsetText).getD "not deleted")

/-- The answer of a pass: how many tasks it queued and what became of them. -/
def ofPass (count : Nat) (r : Report) : Statement where
  json := .obj [
    ("enqueued", .nat count), ("succeeded", .nat r.succeeded), ("redelivered", .nat r.redelivered),
    ("dropped", .nat r.dropped)]
  words := Decimal.text count ++ " task(s) enqueued: " ++ Decimal.text r.succeeded ++
    " succeeded, " ++ Decimal.text r.redelivered ++ " redelivered, " ++ Decimal.text r.dropped ++
    " dropped"

/-- The answer of the command for the version. -/
def version (flags : Flags) : String :=
  if flags.json then (Json.obj [("version", .str programVersion)]).compact ++ "\n"
  else programName ++ " " ++ programVersion ++ "\n"

/-- The answer of the command for the settings, which are at a path. They are printed even if little
is to be shown. -/
def settings (flags : Flags) (path : String) (s : Settings) : String :=
  if flags.json then printedJson (.obj [("path", .str path), ("config", s.encode)])
  else (if flags.quiet then "" else "# " ++ path ++ "\n") ++ s.yaml

end Statement

/-! ## Commands on a reconciler -/

/-- Work with a reconciler that may fail. -/
abbrev Work (τ : Type) := ExceptT Failure (StateM (Reconciler τ))

namespace Work

variable {τ : Type}

/-- Runs a service. -/
def serve {α : Type} (service : Service α) : Work τ α := ExceptT.mk (Reconciler.serve service)

/-- Carries out the queued tasks. -/
def drain : Work τ Report := ExceptT.mk fun r =>
  let (report, r) := r.drain
  (.ok report, r)

/-- Reconciles until an interrupt. -/
def runUntil (interrupt : Nat) : Work τ Unit := ExceptT.mk fun r => (.ok (), r.runUntil interrupt)

/-- Changes an instance; it is an error if there is none. -/
def change (key : InstanceKey) (service : Service Change) : Work τ Statement := do
  match ← serve service with
  | .missing => throw (.of (.missingInstance key))
  | c => return .ofChange key c

/-- Deletes an instance and looks when it was deleted. -/
def delete (key : InstanceKey) (service : Service Unit) : Work τ Statement := do
  serve service
  let found ← serve (Service.lookup Instance key)
  return .ofDeletion key (found.bind Instance.deletionTime)

end Work

/-- Carries out a command with a reconciler and gives what is printed; `interrupt` is the time in
milliseconds after which a run that does not end by itself is interrupted. The two commands that
need no reconciler have nothing to do here. -/
def Command.carryOut {τ : Type} (interrupt : Nat) (flags : Flags) (c : Command) :
    Work τ String := do
  match c with
  | .schedule pass =>
    let count ← Work.serve pass.schedule
    return (Statement.ofPass count (← Work.drain)).print flags
  | .fetch key =>
    let urls ← Work.serve (listInstances key (← get).settings.discovery.pageSize)
    return (Statement.ofUrls urls).print flags
  | .showInstance key =>
    match ← Work.serve (Service.lookup Instance key) with
    | some i => return printedJson i.encode
    | none => throw (.of (.missingInstance key))
  | .markForDeletion key =>
    return (← Work.change key (FleetReconciler.markForDeletion key)).print flags
  | .lease key expires => return (← Work.change key (setLease key expires)).print flags
  | .subscribe key project subscription account =>
    return (← Work.change key (addSubscription key project subscription account)).print flags
  | .deletePending key =>
    return (← Work.delete key (FleetReconciler.deletePending key)).print flags
  | .deleteDrained key =>
    return (← Work.delete key (FleetReconciler.deleteDrained key)).print flags
  | .reconcile =>
    Work.runUntil interrupt
    return ""
  | .version | .showSettings => return ""

/-! ## Invocations -/

/-- What an invocation leaves behind: what it prints or why it fails, and all that it changed. -/
structure Aftermath (τ : Type) where
  printed : Except Failure String
  files : FileTree
  log : List Notice := []
  link : τ

namespace Aftermath

variable {τ : Type}

/-- The exit code. -/
def exitCode (a : Aftermath τ) : Nat :=
  match a.printed with
  | .ok _ => 0
  | .error _ => 1

/-- The text for standard output. -/
def outputText (a : Aftermath τ) : String :=
  match a.printed with
  | .ok s => s
  | .error _ => ""

/-- The text for standard error, if there is one. -/
def errorText? (a : Aftermath τ) : Option String :=
  match a.printed with
  | .ok _ => none
  | .error f => some ("Error: " ++ f.message)

end Aftermath

/-- Runs an invocation. -/
def Invocation.run {τ : Type} (interrupt : Nat) (i : Invocation) (s : Surroundings τ) :
    Aftermath τ :=
  let idle (printed : Except Failure String) : Aftermath τ :=
    { printed, files := s.files, link := s.link }
  match i.command with
  | .version => idle (.ok (Statement.version i.flags))
  | .showSettings =>
    let path := s.environment.settingsPath i.flags.config
    idle ((Settings.load path s.files).map (Statement.settings i.flags path))
  | c =>
    match Reconciler.open i.flags s with
    | .error f => idle (.error f)
    | .ok r =>
      let (printed, r) := (c.carryOut interrupt i.flags).run r
      { printed, files := r.session.files, log := r.session.log, link := r.session.cloud }

end FleetReconciler
