import FleetReconciler.Cloud
import FleetReconciler.Store.File

/-!
# Sessions

A session is what the services of a reconciler work on: the records, the files, the compute API, the
queue of new tasks, and what they have reported. Every request is performed at once.

* `Session` — the state;
* `Session.perform` — one request;
* `Session.serve` — a whole service.
-/

namespace FleetReconciler

/-- Where the records are kept. -/
inductive Backend where
  | memory (store : MemoryStore)
  | file (store : FileStore)
  deriving DecidableEq

namespace Backend

/-- The records. -/
def records : Backend → MemoryStore
  | memory s => s
  | file s => s.memory

/-- The same place with other records. -/
def withRecords : Backend → MemoryStore → Backend
  | memory _, records => memory records
  | file s, records => file { s with memory := records }

end Backend

/-- A call of the compute API. -/
inductive CloudCall where
  | list (call : ListCall)
  | delete (call : DeleteCall)
  deriving DecidableEq, Repr

/-- The state on which services work; `κ` is the state of the compute API. -/
structure Session (κ : Type) where
  backend : Backend
  files : FileTree := {}
  cloud : κ
  /-- The time of day. -/
  clock : Timestamp
  /-- How many more tasks the queue accepts; none if it accepts any number. -/
  room : Option Nat := none
  /-- The tasks that were queued, in order. -/
  queued : List Task := []
  /-- The events that were sent, in order. -/
  events : List (MachineEvent × String) := []
  /-- The calls that were made, in order. -/
  calls : List CloudCall := []
  log : List Notice := []

namespace Session

variable {κ : Type}

/-- The records of a session. -/
def records (s : Session κ) : MemoryStore := s.backend.records

/-- The session with other records. -/
def withRecords (s : Session κ) (records : MemoryStore) : Session κ :=
  { s with backend := s.backend.withRecords records }

/-- Writes to the log. -/
def note (n : Notice) (s : Session κ) : Session κ := { s with log := s.log ++ [n] }

/-- Reports an event, which is logged too. -/
def send (event : MachineEvent) (hostname : String) (s : Session κ) : Session κ :=
  note (.machineEvent event hostname) { s with events := s.events ++ [(event, hostname)] }

/-- Saves the records where they have a file. -/
def save (s : Session κ) : Except Failure Unit × Session κ :=
  match s.backend with
  | .memory _ => (.ok (), s)
  | .file store =>
    let (r, files) := store.save none s.files
    (r, { s with files })

/-- The records as they are found when they are loaded again. -/
def reloaded (s : Session κ) : Except Failure Backend :=
  match s.backend with
  | .memory store => .ok (.memory (.ofSnapshot store.snapshot))
  | .file store => (FileStore.load store.path s.files).map .file

/-- Loads the records again from where they are kept. Versions start anew. -/
def reopen (s : Session κ) : Except Failure Unit × Session κ :=
  match s.reloaded with
  | .ok backend => (.ok (), { s with backend })
  | .error f => (.error f, s)

/-- The stored values as they are found when they are loaded again. -/
def durable (s : Session κ) : Snapshot :=
  match s.reloaded with
  | .ok backend => backend.records.snapshot
  | .error _ => []

/-- Queues a task if there is room. -/
def enqueue (t : Task) (s : Session κ) : Except Failure Unit × Session κ :=
  match s.room with
  | some 0 => (.error (.of (.reported "queue refused the task")), s)
  | room => (.ok (), { s with queued := s.queued ++ [t], room := room.map (· - 1) })

/-- Performs a request. -/
def perform (c : Cloud κ) : (r : Request) → Session κ → r.Reply × Session κ
  | .read _ kind id, s => (.ok (s.records.find? kind id), s)
  | .commit kind id version value, s =>
    let (done, records) := s.records.commit kind id version value
    (done, s.withRecords records)
  | .save, s => s.save
  | .scan kind, s => (.ok (s.records.rows kind), s)
  | .listInstances call, s =>
    let (answer, cloud) := c.list call s.cloud
    (answer, { s with cloud, calls := s.calls ++ [.list call] })
  | .deleteInstances call, s =>
    let (answer, cloud) := c.delete call s.cloud
    (answer, { s with cloud, calls := s.calls ++ [.delete call] })
  | .now, s => (s.clock, s)
  | .send event hostname, s => ((), s.send event hostname)
  | .note n, s => ((), s.note n)
  | .enqueue t, s => s.enqueue t
  | .pageBudget, s => (c.pageBudget s.cloud, s)
  | .turns, s => ([], s)

/-- Runs a service. -/
def serve {α : Type} (c : Cloud κ) (service : Service α) (s : Session κ) :
    Except Failure α × Session κ :=
  service.run (perform c) s

/-- Writes a record whatever is there, and saves. -/
def put {ρ k : Type} [Entity ρ k] (r : ρ) (s : Session κ) : Except Failure Unit × Session κ :=
  let kind := EntityKey.kind k
  let id := EntityKey.text (Entity.key r)
  (s.withRecords (s.records.put kind id (Entity.stored r))).save

end Session

end FleetReconciler
