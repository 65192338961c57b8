import FleetReconciler.Settings.Basic
import FleetReconciler.Record.Decode

/-!
# Settings as JSON

Every member has a default, so any of them may be missing.
-/

namespace FleetReconciler

namespace ComputeSettings

/-- The member `endpoint`. -/
def endpointField : Field String := ⟨"endpoint", Decode.string⟩

/-- The member `timeout_secs`. -/
def timeoutField : Field Nat := ⟨"timeout_secs", Decode.u64⟩

/-- The shape of the section `compute`. -/
def shape : RecordShape := ⟨"ComputeConfig", [endpointField.spare, timeoutField.spare]⟩

/-- The settings of a JSON value. -/
def decode : Decoder ComputeSettings := fun j => do
  let v ← shape.view j
  let d : ComputeSettings := {}
  return {
    endpoint := ← endpointField.defaulted d.endpoint v
    timeoutSeconds := (← timeoutField.defaulted d.timeoutSeconds.toNat v).toUInt64 }

/-- The JSON value of the settings. -/
def encode (s : ComputeSettings) : Json :=
  .obj [("endpoint", .str s.endpoint), ("timeout_secs", .nat s.timeoutSeconds.toNat)]

end ComputeSettings

namespace DiscoverySettings

/-- The member `page_size`. -/
def pageSizeField : Field Nat := ⟨"page_size", Decode.u32⟩

/-- The member `max_concurrent`. -/
def maxConcurrentField : Field Nat := ⟨"max_concurrent", Decode.usize⟩

/-- The shape of the section `discovery`. -/
def shape : RecordShape := ⟨"DiscoveryConfig", [pageSizeField.spare, maxConcurrentField.spare]⟩

/-- The settings of a JSON value. -/
def decode : Decoder DiscoverySettings := fun j => do
  let v ← shape.view j
  let d : DiscoverySettings := {}
  return {
    pageSize := (← pageSizeField.defaulted d.pageSize.toNat v).toUInt32
    maxConcurrent := (← maxConcurrentField.defaulted d.maxConcurrent.toNat v).toUInt64 }

/-- The JSON value of the settings. -/
def encode (s : DiscoverySettings) : Json :=
  .obj [("page_size", .nat s.pageSize.toNat), ("max_concurrent", .nat s.maxConcurrent.toNat)]

end DiscoverySettings

namespace ScheduleSettings

/-- The member `fetch_interval_secs`. -/
def fetchField : Field Nat := ⟨"fetch_interval_secs", Decode.u64⟩

/-- The member `deletion_interval_secs`. -/
def deletionField : Field Nat := ⟨"deletion_interval_secs", Decode.u64⟩

/-- The shape of the section `schedule`. -/
def shape : RecordShape := ⟨"ScheduleConfig", [fetchField.spare, deletionField.spare]⟩

/-- The settings of a JSON value. -/
def decode : Decoder ScheduleSettings := fun j => do
  let v ← shape.view j
  let d : ScheduleSettings := {}
  return {
    fetchIntervalSeconds := (← fetchField.defaulted d.fetchIntervalSeconds.toNat v).toUInt64
    deletionIntervalSeconds :=
      (← deletionField.defaulted d.deletionIntervalSeconds.toNat v).toUInt64 }

/-- The JSON value of the settings. -/
def encode (s : ScheduleSettings) : Json :=
  .obj [
    ("fetch_interval_secs", .nat s.fetchIntervalSeconds.toNat),
    ("deletion_interval_secs", .nat s.deletionIntervalSeconds.toNat)]

end ScheduleSettings

namespace DispatcherSettings

/-- The member `concurrency`. -/
def concurrencyField : Field Nat := ⟨"concurrency", Decode.usize⟩

/-- The member `max_attempts`. -/
def maxAttemptsField : Field Nat := ⟨"max_attempts", Decode.u32⟩

/-- The member `retry_delay_ms`. -/
def retryDelayField : Field Nat := ⟨"retry_delay_ms", Decode.u64⟩

/-- The shape of the section `dispatcher`. -/
def shape : RecordShape :=
  ⟨"DispatcherConfig", [concurrencyField.spare, maxAttemptsField.spare, retryDelayField.spare]⟩

/-- The settings of a JSON value. -/
def decode : Decoder DispatcherSettings := fun j => do
  let v ← shape.view j
  let d : DispatcherSettings := {}
  return {
    concurrency := (← concurrencyField.defaulted d.concurrency.toNat v).toUInt64
    maxAttempts := (← maxAttemptsField.defaulted d.maxAttempts.toNat v).toUInt32
    retryDelay := (← retryDelayField.defaulted d.retryDelay.toNat v).toUInt64 }

/-- The JSON value of the settings. -/
def encode (s : DispatcherSettings) : Json :=
  .obj [
    ("concurrency", .nat s.concurrency.toNat),
    ("max_attempts", .nat s.maxAttempts.toNat),
    ("retry_delay_ms", .nat s.retryDelay.toNat)]

end DispatcherSettings

namespace StoreSettings

/-- The text of a path. -/
def pathText : Decoder String
  | .str s => .ok s
  | j => Decode.mismatch "path string" j

/-- The member `path`. -/
def pathField : Field (Option String) := ⟨"path", Decode.optional pathText⟩

/-- The shape of the section `store`. -/
def shape : RecordShape := ⟨"StoreConfig", [pathField.spare]⟩

/-- The settings of a JSON value. -/
def decode : Decoder StoreSettings := fun j => do
  let v ← shape.view j
  return { path := ← pathField.defaulted none v }

/-- The JSON value of the settings. -/
def encode (s : StoreSettings) : Json :=
  .ofMembers [s.path.map fun p => ("path", .str p)]

end StoreSettings

namespace Settings

/-- The section `compute`. -/
def computeField : Field ComputeSettings := ⟨"compute", ComputeSettings.decode⟩

/-- The section `discovery`. -/
def discoveryField : Field DiscoverySettings := ⟨"discovery", DiscoverySettings.decode⟩

/-- The section `schedule`. -/
def scheduleField : Field ScheduleSettings := ⟨"schedule", ScheduleSettings.decode⟩

/-- The section `dispatcher`. -/
def dispatcherField : Field DispatcherSettings := ⟨"dispatcher", DispatcherSettings.decode⟩

/-- The section `store`. -/
def storeField : Field StoreSettings := ⟨"store", StoreSettings.decode⟩

/-- The shape of all settings. -/
def shape : RecordShape :=
  ⟨"ReconcilerConfig", [
    computeField.spare, discoveryField.spare, scheduleField.spare, dispatcherField.spare,
    storeField.spare]⟩

/-- The settings of a JSON value. -/
def decode : Decoder Settings := fun j => do
  let v ← shape.view j
  return {
    compute := ← computeField.defaulted {} v
    discovery := ← discoveryField.defaulted {} v
    schedule := ← scheduleField.defaulted {} v
    dispatcher := ← dispatcherField.defaulted {} v
    store := ← storeField.defaulted {} v }

/-- The JSON value of all settings. -/
def encode (s : Settings) : Json :=
  .obj [
    ("compute", s.compute.encode),
    ("discovery", s.discovery.encode),
    ("schedule", s.schedule.encode),
    ("dispatcher", s.dispatcher.encode),
    ("store", s.store.encode)]

end Settings

end FleetReconciler
