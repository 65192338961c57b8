import FleetReconciler.Dispatcher.Basic

/-!
# Carrying out a batch of deliveries

A batch is carried out on a clock of milliseconds that moves only when everything waits. At most
`width` deliveries are in flight; they are taken in queue order. A delivery waits its retry delay
after it is taken, then its handler starts, which may sleep before it finishes. Deliveries that wake
at one moment go on in the order in which they fell asleep; when one finishes, the next is taken and
goes behind those that are ready. What arrives at that moment arrives when all of them wait again.

* `Handler` — what carries out a task: a start, a sleep, an end;
* `Batch.step` — one step of a batch; `Batch.weight` falls with each;
* `Batch.execute` — all steps.
-/

namespace FleetReconciler

/-- What the end of a handler leaves behind: the tasks it queued and why it failed, if it did. -/
structure Outcome where
  queued : List Task := []
  failure : Option Failure := none
  deriving DecidableEq, Repr

/-- What carries out tasks, over a state `σ`. A run is a start, a sleep of some milliseconds and an
end; `τ` is what a run remembers while it sleeps. -/
structure Handler (σ τ : Type) where
  /-- Starts a run of a task: how long it sleeps and what it remembers. -/
  start : Task → σ → (Nat × τ) × σ
  /-- Ends a run. -/
  finish : τ → σ → Outcome × σ
  /-- Writes a notice to the log. -/
  note : Notice → σ → σ

/-- What happens at a given moment from outside: it may queue tasks. -/
structure Arrival (σ : Type) where
  time : Nat
  act : σ → List Task × σ

/-- What happened in a batch, and when. -/
inductive Mark where
  | taken (time : Nat) (delivery : Delivery)
  | started (time : Nat) (delivery : Delivery)
  | ended (time : Nat) (delivery : Delivery)
  deriving DecidableEq, Repr

/-- A dispatcher at work: the clock, the queue, what is to arrive (ascending), and the state that
the handlers share. -/
structure Dispatcher (σ : Type) where
  settings : DispatcherSettings
  now : Nat := 0
  queue : List Delivery := []
  /-- The ticket of the next queued task. -/
  ticket : Nat := 0
  arrivals : List (Arrival σ) := []
  /-- What has happened so far. -/
  marks : List Mark := []
  state : σ

namespace Dispatcher

variable {σ : Type}

/-- Queues a task. -/
def enqueue (d : Dispatcher σ) (t : Task) : Dispatcher σ :=
  { d with queue := d.queue ++ [⟨d.ticket, t, 1⟩], ticket := d.ticket + 1 }

/-- Queues tasks in order. -/
def enqueueAll (d : Dispatcher σ) (ts : List Task) : Dispatcher σ :=
  ts.foldl enqueue d

/-- Notes what happens. -/
def mark (d : Dispatcher σ) (m : Mark) : Dispatcher σ := { d with marks := d.marks ++ [m] }

/-- Lets an arrival happen, at its time or now if that has passed. -/
def receive (d : Dispatcher σ) (a : Arrival σ) (rest : List (Arrival σ)) : Dispatcher σ :=
  let (tasks, state) := a.act d.state
  enqueueAll { d with now := max d.now a.time, arrivals := rest, state } tasks

end Dispatcher

/-- What a delivery in flight does next. -/
inductive Phase (τ : Type) where
  /-- It was taken and has not looked at its retry delay. -/
  | taken
  /-- Its retry delay is over. -/
  | due
  /-- Its handler has started. -/
  | running (memory : τ)

/-- A delivery in flight. -/
structure Flight (τ : Type) where
  delivery : Delivery
  phase : Phase τ

/-- A delivery in flight that waits for a moment. -/
structure Sleeper (τ : Type) where
  wakes : Nat
  flight : Flight τ

/-- A batch that is being carried out. -/
structure Batch (τ : Type) where
  /-- The deliveries that are not taken yet. -/
  waiting : List Delivery
  /-- The deliveries that can go on, in the order in which they do. -/
  ready : List (Flight τ) := []
  /-- The deliveries that sleep, in the order in which they fell asleep. -/
  asleep : List (Sleeper τ) := []
  /-- The finished deliveries with their failures, in the order in which they finished. -/
  finished : List (Delivery × Option Failure) := []

namespace Batch

variable {σ τ : Type}

/-- The number of deliveries that are taken and not finished. -/
def inFlight (b : Batch τ) : Nat := b.ready.length + b.asleep.length

/-! ## Steps of one delivery -/

/-- Ends the run of a delivery. -/
def finish (h : Handler σ τ) (d : Dispatcher σ) (b : Batch τ) (x : Delivery) (memory : τ) :
    Dispatcher σ × Batch τ :=
  let (outcome, state) := h.finish memory d.state
  ((({ d with state }).enqueueAll outcome.queued).mark (.ended d.now x),
    { b with finished := b.finished ++ [(x, outcome.failure)] })

/-- Puts a delivery to sleep for some milliseconds. -/
def sleep (d : Dispatcher σ) (b : Batch τ) (ms : Nat) (f : Flight τ) : Batch τ :=
  { b with asleep := b.asleep ++ [⟨d.now + ms, f⟩] }

/-- Starts the run of a delivery. A run that does not sleep ends at once. -/
def start (h : Handler σ τ) (d : Dispatcher σ) (b : Batch τ) (x : Delivery) :
    Dispatcher σ × Batch τ :=
  let ((ms, memory), state) := h.start x.task d.state
  let d := { d with state }.mark (.started d.now x)
  if ms = 0 then finish h d b x memory
  else (d, sleep d b ms ⟨x, .running memory⟩)

/-- Lets a ready delivery go on. -/
def resume (h : Handler σ τ) (d : Dispatcher σ) (b : Batch τ) (f : Flight τ) :
    Dispatcher σ × Batch τ :=
  match f.phase with
  | .taken =>
    let delay := (d.settings.delayBefore f.delivery.attempt).toNat
    if delay = 0 then start h d b f.delivery
    else (d, sleep d b delay ⟨f.delivery, .due⟩)
  | .due => start h d b f.delivery
  | .running memory => finish h d b f.delivery memory

/-! ## Steps of the batch -/

/-- The earliest moment at which a delivery wakes. -/
def firstWake? (b : Batch τ) : Option Nat := (b.asleep.map Sleeper.wakes).min?

/-- Moves the clock to `time` and lets all that wake then go on. -/
def wake (d : Dispatcher σ) (b : Batch τ) (time : Nat) : Dispatcher σ × Batch τ :=
  let (up, down) := b.asleep.partition fun s => s.wakes ≤ time
  ({ d with now := max d.now time },
    { b with ready := b.ready ++ up.map Sleeper.flight, asleep := down })

/-- Whether something arrives before `time`. -/
def arrival? (d : Dispatcher σ) (time : Nat) : Option (Arrival σ × List (Arrival σ)) :=
  match d.arrivals with
  | a :: rest => if a.time < time then some (a, rest) else none
  | [] => none

/-- One step: take a delivery if there is room, else let the first that is ready go on, else let the
next thing happen that the clock brings. A batch without deliveries makes no step. -/
def step (h : Handler σ τ) (d : Dispatcher σ) (b : Batch τ) : Option (Dispatcher σ × Batch τ) :=
  match b.waiting, b.ready with
  | x :: rest, ready =>
    if b.inFlight < d.settings.width then
      some (d.mark (.taken d.now x), { b with waiting := rest, ready := ready ++ [⟨x, .taken⟩] })
    else
      match ready with
      | f :: ready => some (resume h d { b with ready } f)
      | [] => idle d b
  | [], f :: ready => some (resume h d { b with ready } f)
  | [], [] => idle d b
where
  /-- Lets the next thing happen that the clock brings. -/
  idle (d : Dispatcher σ) (b : Batch τ) : Option (Dispatcher σ × Batch τ) :=
    match b.firstWake? with
    | none => none
    | some time =>
      match arrival? d time with
      | some (a, rest) => some (d.receive a rest, b)
      | none => some (wake d b time)

/-- How many steps a delivery in flight takes at most before it finishes. -/
def Phase.weight : Phase τ → Nat
  | .taken => 5
  | .due => 3
  | .running _ => 1

/-- A bound on the steps of a batch: each delivery is taken, goes on and wakes at most so often, and
each arrival happens once. -/
def weight (d : Dispatcher σ) (b : Batch τ) : Nat :=
  6 * b.waiting.length + total (fun f => Phase.weight f.phase) b.ready +
    total (fun s => Phase.weight s.flight.phase + 1) b.asleep + d.arrivals.length

/-- The steps of a batch, at most `fuel` of them. -/
def run (h : Handler σ τ) : Nat → Dispatcher σ → Batch τ → Dispatcher σ × Batch τ
  | 0, d, b => (d, b)
  | fuel + 1, d, b =>
    match step h d b with
    | none => (d, b)
    | some (d, b) => run h fuel d b

/-- Carries out deliveries: the dispatcher afterwards and the results in the order of completion. -/
def execute (h : Handler σ τ) (d : Dispatcher σ) (deliveries : List Delivery) :
    Dispatcher σ × List (Delivery × Option Failure) :=
  let b : Batch τ := { waiting := deliveries }
  let (d, b) := run h (weight d b) d b
  (d, b.finished)

end Batch

end FleetReconciler
