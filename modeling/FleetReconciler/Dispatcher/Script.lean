import FleetReconciler.Dispatcher.Queue

/-!
# Scripted handlers

A script gives each task a finite list of steps; the n-th run of the task follows the n-th step, and
a run past the end succeeds at once and queues nothing. Scripts are keyed by the text of the task.

* `Script.handler` — the handler that follows a script;
* `Script.runBound` — a bound on the number of runs of a drain.
-/

namespace FleetReconciler

/-- What one run does: it sleeps, queues tasks and then fails or succeeds. -/
structure ScriptStep where
  sleep : Nat := 0
  queued : List Task := []
  failure : Option Failure := none
  deriving DecidableEq, Repr

/-- The steps of every task that has any. -/
abbrev Script := Table (List ScriptStep)

/-- A script that is being followed: how often each task has run, and what was logged. -/
structure ScriptState where
  runs : Table Nat := []
  log : List Notice := []
  deriving Repr

namespace Script

/-- The step of the n-th run of a task, counted from zero. -/
def stepOf (s : Script) (t : Task) (n : Nat) : ScriptStep :=
  (((Table.get? t.text s).getD [])[n]?).getD {}

/-- The handler that follows a script. -/
def handler (s : Script) : Handler ScriptState ScriptStep where
  start t state :=
    let n := (Table.get? t.text state.runs).getD 0
    let step := s.stepOf t n
    ((step.sleep, step), { state with runs := Table.insert t.text (n + 1) state.runs })
  finish step state := ({ queued := step.queued, failure := step.failure }, state)
  note n state := { state with log := state.log ++ [n] }

/-- How many tasks all steps together queue. -/
def queuedCount (s : Script) : Nat :=
  total (fun p => total (fun step => step.queued.length) p.2) s

/-- A bound on the number of handler runs of a drain that starts with `initial` deliveries. -/
def runBound (s : Script) (settings : DispatcherSettings) (initial : Nat) : Nat :=
  max 1 settings.maxAttempts.toNat * (initial + s.queuedCount)

/-- Drains the queue; every batch has a run, so the bound on the runs bounds the batches. -/
def drain (s : Script) (d : Dispatcher ScriptState) : Dispatcher ScriptState × Report :=
  d.drain s.handler (s.runBound d.settings d.queue.length)

/-- Runs until the shutdown. Beside the batches there is one round for each arrival and two for the
shutdown. -/
def run (s : Script) (shutdown arriving : Nat) (d : Dispatcher ScriptState) :
    Dispatcher ScriptState × Report :=
  let rounds := s.runBound d.settings (d.queue.length + arriving) + d.arrivals.length + 2
  d.run s.handler shutdown (fun _ => true) rounds

end Script

end FleetReconciler
