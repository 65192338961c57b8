import FleetReconciler.Notice
import FleetReconciler.Store.Memory

/-!
# Services

A service is a program that works on the store, the compute API and the log by asking for one thing
after another. Between two requests of one service any other may be served, so a service is a tree:
a request, and for each reply the service that goes on.

* `Request`, `Request.Reply` — what can be asked for, and the type of the answer;
* `Service` — the trees; `Service.bind` sequences them and a failure ends them;
* `Service.run` — one service alone, every request performed at once;
* `Service.gather` — several services that take turns.
-/

namespace FleetReconciler

/-! ## Requests -/

/-- A call that lists a page of the members of an instance group. -/
structure ListCall where
  project : String
  group : String
  zone : String
  pageSize : UInt32
  token : Option String
  deriving DecidableEq, Repr

/-- A call that asks the manager of an instance group to delete instances. -/
structure DeleteCall where
  project : String
  group : String
  zone : String
  urls : List String
  deriving DecidableEq, Repr

/-- Why a record is read. -/
inductive Purpose where
  | lookup
  /-- The first reading of a transaction, or a later one after `overtaken` lost races. -/
  | transaction (overtaken : Nat)
  deriving DecidableEq, Repr

/-- What a service can ask for. -/
inductive Request where
  /-- What is stored under an id? -/
  | read (purpose : Purpose) (kind : Kind) (id : String)
  /-- Write a value unless the record has been written since it had the given version. -/
  | commit (kind : Kind) (id : String) (version : Nat) (value : Json)
  /-- Make what was written durable. -/
  | save
  /-- All records of a kind in the order of their ids. -/
  | scan (kind : Kind)
  | listInstances (call : ListCall)
  | deleteInstances (call : DeleteCall)
  /-- What time is it? -/
  | now
  /-- Report an event in the life of a machine. -/
  | send (event : MachineEvent) (hostname : String)
  /-- Write to the log. -/
  | note (notice : Notice)
  /-- Queue a task. -/
  | enqueue (task : Task)
  /-- How many pages may a listing have? -/
  | pageBudget
  /-- In which order do services that are in flight together take their turns? -/
  | turns

namespace Request

/-- The type of the reply to a request. -/
@[reducible]
def Reply : Request → Type
  | read .. => Except Failure (Option Stored)
  | commit .. => Bool
  | save => Except Failure Unit
  | scan _ => Except Failure (List (String × Json))
  | listInstances _ => Except ComputeError InstancePage
  | deleteInstances _ => Except ComputeError Operation
  | now => Timestamp
  | send .. => Unit
  | note _ => Unit
  | enqueue _ => Except Failure Unit
  | pageBudget => Nat
  | turns => List Nat

end Request

/-! ## Services -/

/-- A program that works by requests: it is done, has failed, or asks and goes on with the reply. -/
inductive Service (α : Type) where
  | done (a : α)
  | fail (f : Failure)
  | ask (r : Request) (next : r.Reply → Service α)

namespace Service

variable {α β : Type}

/-- One service after another; a failure ends both. -/
def bind : Service α → (α → Service β) → Service β
  | done a, k => k a
  | fail f, _ => fail f
  | ask r next, k => ask r fun reply => bind (next reply) k

instance : Monad Service where
  pure := done
  bind := bind

@[simp]
theorem bind_done (a : α) (k : α → Service β) : (done a >>= k) = k a := rfl

@[simp]
theorem bind_fail (f : Failure) (k : α → Service β) : (fail f >>= k) = fail f := rfl

@[simp]
theorem bind_ask (r : Request) (next : r.Reply → Service α) (k : α → Service β) :
    (ask r next >>= k) = ask r fun reply => next reply >>= k := rfl

theorem bind_pure (s : Service α) : s >>= pure = s := by
  induction s with
  | done a => rfl
  | fail f => rfl
  | ask r next ih => exact congrArg (ask r) (funext ih)

theorem bind_assoc {γ : Type} (s : Service α) (k : α → Service β) (l : β → Service γ) :
    s >>= k >>= l = s >>= fun a => k a >>= l := by
  induction s with
  | done a => rfl
  | fail f => rfl
  | ask r next ih => exact congrArg (ask r) (funext ih)

/-- Asks for one thing. -/
def request (r : Request) : Service r.Reply := ask r done

/-- Ends with the failure of a result, or goes on with its value. -/
def lift : Except Failure α → Service α
  | .ok a => done a
  | .error f => fail f

/-- The same service, its failure seen from an activity around it. -/
def within (context : Context) : Service α → Service α
  | done a => done a
  | fail f => fail (f.within context)
  | ask r next => ask r fun reply => within context (next reply)

/-- The result of a service as a value. -/
def result : Service α → Service (Except Failure α)
  | done a => done (.ok a)
  | fail f => done (.error f)
  | ask r next => ask r fun reply => result (next reply)

/-! ### Single requests -/

/-- Writes a notice to the log. -/
def note (n : Notice) : Service Unit := request (.note n)

/-- Reports an event in the life of a machine. -/
def send (event : MachineEvent) (hostname : String) : Service Unit :=
  request (.send event hostname)

/-- Queues a task. -/
def enqueue (t : Task) : Service Unit := do
  within (.enqueueing t) (lift (← request (.enqueue t)))

/-! ### Running a service alone -/

/-- Runs a service over a state; `perform` serves each request at once. -/
def run {σ : Type} (perform : (r : Request) → σ → r.Reply × σ) :
    Service α → σ → Except Failure α × σ
  | done a, s => (.ok a, s)
  | fail f, s => (.error f, s)
  | ask r next, s =>
    let (reply, s) := perform r s
    run perform (next reply) s

/-! ### Several services -/

/-- One service after the other, whatever becomes of those before. -/
def eachInOrder : List (Service α) → Service (List (Except Failure α))
  | [] => done []
  | s :: rest => do
    let r ← s.result
    let rs ← eachInOrder rest
    return r :: rs

/-- Takes services from the waiting ones into the places that are free. -/
def takeIn (limit : Nat) (active waiting : List (Service α)) :
    List (Service α) × List (Service α) :=
  (active ++ waiting.take (limit - active.length), waiting.drop (limit - active.length))

/-- Services that take turns, at most `limit` of them in flight. Each turn names the service that
does its next request by its place among those in flight; when all turns are taken, the services go
on one after the other. The results come in the order of completion. -/
def takeTurns (limit : Nat) :
    List Nat → List (Service α) → List (Service α) → Service (List (Except Failure α))
  | [], active, waiting => eachInOrder (active ++ waiting)
  | turn :: turns, active, waiting =>
    let (active, waiting) := takeIn limit active waiting
    let place := turn % active.length
    match active[place]? with
    | none => eachInOrder (active ++ waiting)
    | some (done a) => do
      let rs ← takeTurns limit turns (active.eraseIdx place) waiting
      return .ok a :: rs
    | some (fail f) => do
      let rs ← takeTurns limit turns (active.eraseIdx place) waiting
      return .error f :: rs
    | some (ask r next) =>
      ask r fun reply => takeTurns limit turns (active.set place (next reply)) waiting

/-- The results of several services of which at most `limit` are in flight at a time. -/
def gather (limit : Nat) (services : List (Service α)) :
    Service (List (Except Failure α)) := do
  takeTurns limit (← request .turns) [] services

end Service

end FleetReconciler
