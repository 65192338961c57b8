import FleetReconciler.Session.Basic

/-!
# Interference of other writers

Between two requests of a service others may write to the store, and the store may fail. An
interference is armed for one kind of record and one moment of its use; when that moment comes, it
writes a record, fails, or both.

* `Interference` — what happens at which moment, and how often;
* `Session.fire` — lets the armed interferences of a moment happen;
* `Disturbed.perform` — one request with the interferences around it.
-/

namespace FleetReconciler

/-- Moments in the use of the store. -/
inductive Moment where
  | beforeLookup
  | afterLookup
  | beforeScan
  | beforeTransaction
  /-- Between the reading and the writing of a transaction. -/
  | insideTransaction
  deriving DecidableEq, Repr

/-- A write to a record. -/
structure Write where
  kind : Kind
  id : String
  value : Json
  deriving DecidableEq

/-- What others do at a moment. -/
structure Interference where
  moment : Moment
  kind : Kind
  /-- How many times the moment passes before anything happens. -/
  skip : Nat := 0
  /-- How many times it happens after that. -/
  times : Nat := 1
  write : Option Write := none
  failure : Option Failure := none
  deriving DecidableEq

/-- A session with the interferences that are armed, in the order of arming. -/
structure Disturbed (κ : Type) where
  session : Session κ
  armed : List Interference := []
  /-- For each reading of a transaction that could go on, whether it found a record. -/
  found : List Bool := []

namespace Disturbed

variable {κ : Type}

/-- Lets one interference happen if its turn has come: the interference as it is then, the session
and the failure. -/
def fireOne (moment : Moment) (kind : Kind) (i : Interference) (s : Session κ) :
    Interference × Session κ × Option Failure :=
  if i.moment ≠ moment ∨ i.kind ≠ kind then (i, s, none)
  else if i.skip > 0 then ({ i with skip := i.skip - 1 }, s, none)
  else if i.times = 0 then (i, s, none)
  else
    let s := match i.write with
      | some w => s.withRecords (s.records.put w.kind w.id w.value)
      | none => s
    ({ i with times := i.times - 1 }, s, i.failure)

/-- Lets interferences happen in order, up to the first that fails. -/
def fireAll (moment : Moment) (kind : Kind) :
    List Interference → Session κ → List Interference × Session κ × Option Failure
  | [], s => ([], s, none)
  | i :: rest, s =>
    match fireOne moment kind i s with
    | (i, s, some f) => (i :: rest, s, some f)
    | (i, s, none) =>
      let (rest, s, f) := fireAll moment kind rest s
      (i :: rest, s, f)

/-- Lets the armed interferences of a moment happen. -/
def fire (moment : Moment) (kind : Kind) (d : Disturbed κ) : Option Failure × Disturbed κ :=
  let (armed, session, f) := fireAll moment kind d.armed d.session
  (f, { d with session, armed })

/-- Whether what was read is no record or a record of its kind. -/
def readable (kind : Kind) : Option Stored → Bool
  | none => true
  | some r => (kind.check r.value).toBool

/-- Performs a request undisturbed. -/
def calmly (c : Cloud κ) (r : Request) (d : Disturbed κ) : r.Reply × Disturbed κ :=
  let (reply, session) := Session.perform c r d.session
  (reply, { d with session })

/-- What is stored under an id. -/
def stored (d : Disturbed κ) (kind : Kind) (id : String) : Option Stored :=
  d.session.records.find? kind id

/-- Reads a record with what happens around the reading. -/
def read (purpose : Purpose) (kind : Kind) (id : String) (d : Disturbed κ) :
    Except Failure (Option Stored) × Disturbed κ :=
  match purpose with
  | .lookup =>
    match d.fire .beforeLookup kind with
    | (some f, d) => (.error f, d)
    | (none, d) =>
      let found := d.stored kind id
      match d.fire .afterLookup kind with
      | (some f, d) => (.error f, d)
      | (none, d) => (.ok found, d)
  | .transaction overtaken =>
    let (failure, d) := if overtaken = 0 then d.fire .beforeTransaction kind else (none, d)
    match failure with
    | some f => (.error f, d)
    | none =>
      let found := d.stored kind id
      if readable kind found then
        let d := { d with found := d.found ++ [found.isSome] }
        (.ok found, (d.fire .insideTransaction kind).2)
      else (.ok found, d)

/-- Performs a request with what happens around it. -/
def perform (c : Cloud κ) : (r : Request) → Disturbed κ → r.Reply × Disturbed κ
  | .read purpose kind id, d => d.read purpose kind id
  | .scan kind, d =>
    match d.fire .beforeScan kind with
    | (some f, d) => (.error f, d)
    | (none, d) => calmly c (.scan kind) d
  | r, d => calmly c r d

/-- Runs a service with other interferences than those that are armed. -/
def serveAgainst {α : Type} (c : Cloud κ) (rivals : List Interference) (service : Service α)
    (d : Disturbed κ) : Except Failure α × Disturbed κ :=
  let (r, d') := service.run (perform c) { d with armed := rivals, found := [] }
  (r, { d' with armed := d.armed })

/-- Runs a service. -/
def serve {α : Type} (c : Cloud κ) (service : Service α) (d : Disturbed κ) :
    Except Failure α × Disturbed κ :=
  service.run (perform c) d

end Disturbed

end FleetReconciler
