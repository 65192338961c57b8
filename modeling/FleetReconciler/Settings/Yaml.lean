import FleetReconciler.Settings.Basic
import FleetReconciler.Yaml.Node
import FleetReconciler.Yaml.Printer

/-!
# Settings as YAML

A settings text is a mapping of sections, each of which is a mapping. All of it may be left out;
what is not known is passed over, and what is known may be given once.

* `Settings.ofYaml?` — the settings of a text;
* `Settings.yaml` — the text of settings.
-/

namespace FleetReconciler

open Yaml

namespace Yaml.Document

/-- The text of a scalar. -/
def text? (d : Document) (n : Node) : Option String := do
  match ← d.resolve? n with
  | .scalar _ _ text => return text
  | _ => none

/-- The natural number of a scalar, at most `max`. -/
def natural? (d : Document) (max : Nat) (n : Node) : Option Nat := do
  match ← d.resolve? n with
  | .scalar _ .plain text => unsigned? max text
  | .scalar (some "tag:yaml.org,2002:int") .literal text => unsigned? max text
  | _ => none

/-- The text of a scalar that may stand for nothing. -/
def optionalText? (d : Document) (n : Node) : Option (Option String) := do
  match ← d.resolve? n with
  | .scalar tag .plain text =>
    if tag = some "tag:yaml.org,2002:null" then (if isNull text then return none else none)
    else if tag.isNone && (text = "" || isNull text) then return none
    else return some text
  | .scalar _ _ text => return some text
  | _ => none

/-- The entries of a mapping with the texts of their keys. An empty plain scalar is a mapping
without entries. -/
def entries? (d : Document) (n : Node) : Option (List (String × Node)) := do
  match ← d.resolve? n with
  | .mapping entries => entries.mapM fun (k, v) => return (← d.text? k, v)
  | .scalar _ .plain "" => return []
  | _ => none

end Yaml.Document

/-- What is known under a name: how its value changes some settings. -/
structure KnownEntry (α : Type) where
  name : String
  apply : Node → α → Option α

/-- Applies the entries in order. An entry that is known may be given once. -/
def applyEntries {α : Type} (known : List (KnownEntry α)) (seen : List String) :
    List (String × Node) → α → Option α
  | [], a => some a
  | (name, n) :: rest, a =>
    match known.find? (·.name = name) with
    | none => applyEntries known seen rest a
    | some e =>
      if seen.contains name then none
      else (e.apply n a).bind (applyEntries known (name :: seen) rest)

/-- The settings of a mapping of known entries, starting from some defaults. -/
def readSection {α : Type} (d : Document) (known : List (KnownEntry α)) (default : α) (n : Node) :
    Option α := do
  applyEntries known [] (← d.entries? n) default

/-- The largest 32-bit number. -/
def max32 : Nat := Nat.pow 2 32 - 1

/-- The largest 64-bit number. -/
def max64 : Nat := Nat.pow 2 64 - 1

/-- The entries of the section `compute`. -/
def ComputeSettings.entries (d : Document) : List (KnownEntry ComputeSettings) := [
  ⟨"endpoint", fun n s => (d.text? n).map fun v => { s with endpoint := v }⟩,
  ⟨"timeout_secs", fun n s => (d.natural? max64 n).map fun v =>
    { s with timeoutSeconds := v.toUInt64 }⟩]

/-- The entries of the section `discovery`. -/
def DiscoverySettings.entries (d : Document) : List (KnownEntry DiscoverySettings) := [
  ⟨"page_size", fun n s => (d.natural? max32 n).map fun v => { s with pageSize := v.toUInt32 }⟩,
  ⟨"max_concurrent", fun n s => (d.natural? max64 n).map fun v =>
    { s with maxConcurrent := v.toUInt64 }⟩]

/-- The entries of the section `schedule`. -/
def ScheduleSettings.entries (d : Document) : List (KnownEntry ScheduleSettings) := [
  ⟨"fetch_interval_secs", fun n s => (d.natural? max64 n).map fun v =>
    { s with fetchIntervalSeconds := v.toUInt64 }⟩,
  ⟨"deletion_interval_secs", fun n s => (d.natural? max64 n).map fun v =>
    { s with deletionIntervalSeconds := v.toUInt64 }⟩]

/-- The entries of the section `dispatcher`. -/
def DispatcherSettings.entries (d : Document) : List (KnownEntry DispatcherSettings) := [
  ⟨"concurrency", fun n s => (d.natural? max64 n).map fun v =>
    { s with concurrency := v.toUInt64 }⟩,
  ⟨"max_attempts", fun n s => (d.natural? max32 n).map fun v =>
    { s with maxAttempts := v.toUInt32 }⟩,
  ⟨"retry_delay_ms", fun n s => (d.natural? max64 n).map fun v =>
    { s with retryDelay := v.toUInt64 }⟩]

/-- The entries of the section `store`. -/
def StoreSettings.entries (d : Document) : List (KnownEntry StoreSettings) := [
  ⟨"path", fun n s => (d.optionalText? n).map fun v => { s with path := v }⟩]

namespace Settings

/-- The sections. -/
def sections (d : Document) : List (KnownEntry Settings) := [
  ⟨"compute", fun n s => (readSection d (ComputeSettings.entries d) {} n).map fun v =>
    { s with compute := v }⟩,
  ⟨"discovery", fun n s => (readSection d (DiscoverySettings.entries d) {} n).map fun v =>
    { s with discovery := v }⟩,
  ⟨"schedule", fun n s => (readSection d (ScheduleSettings.entries d) {} n).map fun v =>
    { s with schedule := v }⟩,
  ⟨"dispatcher", fun n s => (readSection d (DispatcherSettings.entries d) {} n).map fun v =>
    { s with dispatcher := v }⟩,
  ⟨"store", fun n s => (readSection d (StoreSettings.entries d) {} n).map fun v =>
    { s with store := v }⟩]

/-- The settings of a text. -/
def ofYaml? (text : String) : Option Settings := do
  let d ← Document.parse? text
  readSection d (sections d) {} d.root

/-- The text of settings. -/
def yaml (s : Settings) : String :=
  String.ofList (
    section_ "compute" [
      textEntry 2 "endpoint" s.compute.endpoint,
      numberEntry 2 "timeout_secs" s.compute.timeoutSeconds.toNat] ++
    section_ "discovery" [
      numberEntry 2 "page_size" s.discovery.pageSize.toNat,
      numberEntry 2 "max_concurrent" s.discovery.maxConcurrent.toNat] ++
    section_ "schedule" [
      numberEntry 2 "fetch_interval_secs" s.schedule.fetchIntervalSeconds.toNat,
      numberEntry 2 "deletion_interval_secs" s.schedule.deletionIntervalSeconds.toNat] ++
    section_ "dispatcher" [
      numberEntry 2 "concurrency" s.dispatcher.concurrency.toNat,
      numberEntry 2 "max_attempts" s.dispatcher.maxAttempts.toNat,
      numberEntry 2 "retry_delay_ms" s.dispatcher.retryDelay.toNat] ++
    section_ "store" (s.store.path.toList.map (textEntry 2 "path")))

end Settings

end FleetReconciler
