import FleetReconciler.Command.Basic
import FleetReconciler.Compute.Client
import FleetReconciler.Environment
import FleetReconciler.Execution
import FleetReconciler.Scan
import FleetReconciler.Session.Basic
import FleetReconciler.Settings.File

/-!
# Reconcilers

A reconciler is a dispatcher whose tasks work on a session, with the settings for both.

* `Surroundings` — what a reconciler finds when it starts;
* `Reconciler.open` — the reconciler of a user;
* `Reconciler.serve` — a service, whose tasks are queued;
* `Reconciler.drain` — the queued tasks.
-/

namespace FleetReconciler

/-- What a program finds when it starts; `τ` is the state of what carries its requests. -/
structure Surroundings (τ : Type) where
  environment : Environment
  files : FileTree
  /-- The time of day. -/
  clock : Timestamp
  transport : Transport τ
  link : τ

/-- A dispatcher over a session, with settings. -/
structure Reconciler (τ : Type) where
  settings : Settings
  cloud : Cloud τ
  work : Dispatcher (Session τ)

namespace Reconciler

variable {τ : Type}

/-- The path of the store: the given one, else that of the settings, else the usual one. -/
def storePath (flags : Flags) (settings : Settings) (e : Environment) : String :=
  (flags.store <|> settings.store.path).getD e.storePath

/-- The reconciler of a user: the settings are loaded, then the secrets, then the store. -/
def «open» (flags : Flags) (s : Surroundings τ) : Except Failure (Reconciler τ) := do
  let settings ← Settings.load (s.environment.settingsPath flags.config) s.files
  let credentials ← Credentials.ofEnvironment s.environment
  let path := storePath flags settings s.environment
  let store ← inContext (.openingStore path) (FileStore.load path s.files)
  let client := ComputeClient.ofSettings settings.compute credentials.accessToken
  let session : Session τ := {
    backend := .file store, files := s.files, cloud := s.link, clock := s.clock
    log := client.notice?.toList }
  return {
    settings, cloud := client.cloud s.transport
    work := { settings := settings.dispatcher, state := session } }

/-- The session. -/
def session (r : Reconciler τ) : Session τ := r.work.state

/-- Runs a service. The tasks that it queues go to the dispatcher. -/
def serve {α : Type} (service : Service α) (r : Reconciler τ) : Except Failure α × Reconciler τ :=
  let (result, s) := r.session.serve r.cloud service
  let work := { r.work with state := { s with queued := [] } }
  (result, { r with work := work.enqueueAll s.queued })

/-- Carries out the queued tasks. -/
def drain (r : Reconciler τ) : Report × Reconciler τ :=
  let (work, report) := r.work.drainTasks (Session.perform r.cloud) r.settings.discovery
  (report, { r with work })

end Reconciler

end FleetReconciler
