import FleetReconciler.Dispatcher.Batch

/-!
# Draining and running a queue

A batch is the whole queue at one moment. Its results are settled when all of it is finished, in the
order of completion: a failed delivery goes back to the end of the queue or is dropped.

* `Dispatcher.drain` — batch after batch until the queue is empty;
* `Dispatcher.run` — batch after batch as tasks arrive, until a moment of shutdown. A batch that is
  being carried out then is finished first.
-/

namespace FleetReconciler.Dispatcher

variable {σ τ : Type}

/-- Settles one delivery. -/
def settleOne (h : Handler σ τ) (p : Dispatcher σ × Report) (x : Delivery × Option Failure) :
    Dispatcher σ × Report :=
  let (d, report) := p
  let verdict := x.1.verdict d.settings x.2
  let d := match x.1.notice? verdict with
    | some n => { d with state := h.note n d.state }
    | none => d
  let d := match verdict with
    | .redelivery _ => { d with queue := d.queue ++ [x.1.next] }
    | _ => d
  (d, report.count verdict)

/-- Settles the results of a batch in order. -/
def settle (h : Handler σ τ) (p : Dispatcher σ × Report)
    (results : List (Delivery × Option Failure)) : Dispatcher σ × Report :=
  results.foldl (settleOne h) p

/-- Carries out the whole queue once and settles it. -/
def batch (h : Handler σ τ) (p : Dispatcher σ × Report) : Dispatcher σ × Report :=
  let (d, report) := p
  let (d', results) := Batch.execute h { d with queue := [] } d.queue
  settle h (d', report) results

/-- Carries out batches until the queue is empty, at most `rounds` of them. -/
def drainFrom (h : Handler σ τ) : Nat → Dispatcher σ × Report → Dispatcher σ × Report
  | 0, p => p
  | rounds + 1, p => if p.1.queue = [] then p else drainFrom h rounds (batch h p)

/-- Drains the queue in at most `rounds` batches. -/
def drain (h : Handler σ τ) (rounds : Nat) (d : Dispatcher σ) : Dispatcher σ × Report :=
  drainFrom h rounds (d, {})

/-! ## Running until a shutdown -/

/-- Waits until a task is queued or the shutdown comes. All that arrives at one moment arrives
together. -/
def await (shutdown : Nat) : List (Arrival σ) → Dispatcher σ → Dispatcher σ
  | [], d => if d.queue = [] then { d with now := max d.now shutdown } else d
  | a :: rest, d =>
    if d.queue ≠ [] ∧ d.now < a.time then d
    else if shutdown ≤ a.time then { d with now := max d.now shutdown }
    else await shutdown rest (d.receive a rest)

/-- Carries out batches until the shutdown. Where shutdown and a queued task are both ready,
`stopFirst` says for each round which of them is seen. -/
def runFrom (h : Handler σ τ) (shutdown : Nat) (stopFirst : Nat → Bool) :
    Nat → Dispatcher σ × Report → Dispatcher σ × Report
  | 0, p => p
  | rounds + 1, (d, report) =>
    if d.queue = [] then
      if shutdown ≤ d.now then (d, report)
      else runFrom h shutdown stopFirst rounds (await shutdown d.arrivals d, report)
    else if shutdown ≤ d.now ∧ stopFirst rounds then (d, report)
    else runFrom h shutdown stopFirst rounds (batch h (d, report))

/-- Lets everything happen that is still to arrive. -/
def receiveRest : List (Arrival σ) → Dispatcher σ → Dispatcher σ
  | [], d => d
  | a :: rest, d => receiveRest rest (d.receive a rest)

/-- Runs until the shutdown, in at most `rounds` rounds. -/
def run (h : Handler σ τ) (shutdown : Nat) (stopFirst : Nat → Bool) (rounds : Nat)
    (d : Dispatcher σ) : Dispatcher σ × Report :=
  runFrom h shutdown stopFirst rounds (d, {})

end FleetReconciler.Dispatcher
