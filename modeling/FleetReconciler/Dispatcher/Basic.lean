import FleetReconciler.Notice

/-!
# Deliveries of tasks

A task that is queued is delivered until a delivery succeeds, at most as often as the settings say.
A redelivery waits: the retry delay for the second attempt, twice as long for each further one, and
never longer than a minute.

* `retryDelay` — the wait before an attempt;
* `Delivery.settle` — what follows from the result of a delivery;
* `Report` — the tally of settled deliveries.
-/

namespace FleetReconciler

/-- The total of a measure over a list. -/
def total {α : Type} (measure : α → Nat) : List α → Nat
  | [] => 0
  | a :: rest => measure a + total measure rest

/-- One delivery of a queued task. All deliveries of one queued task have its ticket. -/
structure Delivery where
  ticket : Nat
  task : Task
  /-- The number of the attempt, from one. -/
  attempt : UInt32
  deriving DecidableEq, Repr

/-- The longest wait before a redelivery, in milliseconds. -/
def maxRetryDelay : UInt64 := 60000

/-- The product, or the largest 64-bit number if it does not fit. -/
def saturatingMul (a b : UInt64) : UInt64 :=
  if a.toNat * b.toNat < Nat.pow 2 64 then a * b else 0xFFFFFFFFFFFFFFFF

/-- The wait before an attempt, in milliseconds. The doubling stops after sixteen times, which is
past the longest wait for every retry delay but zero. -/
def DispatcherSettings.delayBefore (s : DispatcherSettings) (attempt : UInt32) : UInt64 :=
  if attempt ≤ 1 then 0
  else
    let factor : UInt64 := 1 <<< (min (attempt - 2) 16).toUInt64
    min (saturatingMul s.retryDelay factor) maxRetryDelay

/-- How many deliveries are in flight at most. -/
def DispatcherSettings.width (s : DispatcherSettings) : Nat := max s.concurrency.toNat 1

/-- The tally of a drain or a run. The numbers are unbounded here; that counters of a machine word
would wrap around after 2 ^ 64 deliveries is left out. -/
structure Report where
  succeeded : Nat := 0
  redelivered : Nat := 0
  dropped : Nat := 0
  deriving DecidableEq, Repr

/-- What becomes of a delivery. -/
inductive Verdict where
  | success
  | redelivery (failure : Failure)
  | drop (failure : Failure)
  deriving DecidableEq, Repr

/-- What follows from the result of a delivery: a failed one is delivered again unless it was the
last attempt. -/
def Delivery.verdict (s : DispatcherSettings) (d : Delivery) (failure : Option Failure) : Verdict :=
  match failure with
  | none => .success
  | some f => if d.attempt ≥ s.maxAttempts then .drop f else .redelivery f

/-- The delivery after a failed one. -/
def Delivery.next (d : Delivery) : Delivery := { d with attempt := d.attempt + 1 }

/-- Counts a verdict. -/
def Report.count (r : Report) : Verdict → Report
  | .success => { r with succeeded := r.succeeded + 1 }
  | .redelivery _ => { r with redelivered := r.redelivered + 1 }
  | .drop _ => { r with dropped := r.dropped + 1 }

/-- What is written to the log about a delivery. -/
def Delivery.notice? (d : Delivery) : Verdict → Option Notice
  | .success => none
  | .redelivery f => some (.redelivering d.task d.attempt.toNat f)
  | .drop f => some (.dropped d.task d.attempt.toNat f)

end FleetReconciler
