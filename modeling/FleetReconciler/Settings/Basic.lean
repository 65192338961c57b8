import FleetReconciler.Decimal.Digits

/-!
# Settings

The settings of a reconciler, their defaults, and the check of the bounded ones.

* `Settings.default` — what holds when nothing is configured;
* `Settings.validate` — the first setting outside of its range, in a fixed order.
-/

namespace FleetReconciler

/-- The largest page that one list call returns. -/
def maxPageSize : UInt32 := 500

/-- The client of the compute API. -/
structure ComputeSettings where
  /-- The base URL of the API. -/
  endpoint : String := "https://compute.googleapis.com/compute/v1"
  /-- The time limit of one request, in seconds. -/
  timeoutSeconds : UInt64 := 30
  deriving DecidableEq, Repr

/-- The discovery of instances. -/
structure DiscoverySettings where
  /-- How many instances one list call asks for. -/
  pageSize : UInt32 := maxPageSize
  /-- How many records of one group are created at a time. -/
  maxConcurrent : UInt64 := 50
  deriving DecidableEq, Repr

/-- How often the scan passes run. -/
structure ScheduleSettings where
  fetchIntervalSeconds : UInt64 := 60
  deletionIntervalSeconds : UInt64 := 60
  deriving DecidableEq, Repr

/-- The delivery of tasks. -/
structure DispatcherSettings where
  /-- How many deliveries are in flight at a time. -/
  concurrency : UInt64 := 8
  /-- How often a task is delivered before it is dropped. -/
  maxAttempts : UInt32 := 5
  /-- The delay before the first redelivery, in milliseconds; it doubles with each further one. -/
  retryDelay : UInt64 := 1000
  deriving DecidableEq, Repr

/-- The place of the store. -/
structure StoreSettings where
  path : Option String := none
  deriving DecidableEq, Repr

/-- All settings. -/
structure Settings where
  compute : ComputeSettings := {}
  discovery : DiscoverySettings := {}
  schedule : ScheduleSettings := {}
  dispatcher : DispatcherSettings := {}
  store : StoreSettings := {}
  deriving DecidableEq, Repr

/-- A setting that has a bad value. -/
structure SettingError where
  key : String
  value : String
  expected : String
  deriving DecidableEq, Repr

/-- The wording of a setting error. -/
def SettingError.message (e : SettingError) : String :=
  "Invalid value for " ++ e.key ++ ": " ++ e.value ++ "\n\nExpected: " ++ e.expected

namespace Settings

/-- A setting that must not be zero. -/
def atLeastOne (key : String) (value : Nat) : Except SettingError Unit :=
  if value = 0 then .error ⟨key, "0", "at least 1"⟩ else .ok ()

/-- Checks the bounded settings and reports the first that is out of range. -/
def validate (s : Settings) : Except SettingError Unit := do
  let pageSize := s.discovery.pageSize
  if pageSize = 0 ∨ pageSize > maxPageSize then
    throw ⟨"discovery.page_size", Decimal.text pageSize.toNat,
      "1..=" ++ Decimal.text maxPageSize.toNat⟩
  atLeastOne "discovery.max_concurrent" s.discovery.maxConcurrent.toNat
  atLeastOne "dispatcher.concurrency" s.dispatcher.concurrency.toNat
  atLeastOne "dispatcher.max_attempts" s.dispatcher.maxAttempts.toNat
  atLeastOne "schedule.fetch_interval_secs" s.schedule.fetchIntervalSeconds.toNat
  atLeastOne "schedule.deletion_interval_secs" s.schedule.deletionIntervalSeconds.toNat
  if s.compute.endpoint = "" then
    throw ⟨"compute.endpoint", "\"\"", "a base URL"⟩

end Settings

end FleetReconciler
