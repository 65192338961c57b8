import FleetReconciler.Discovery
import FleetReconciler.Deletion
import FleetReconciler.Dispatcher.Queue

/-!
# Carrying out tasks

* `Task.execute` — the service that carries out a task;
* `taskHandler` — the handler of a dispatcher that runs this service. It does not wait for anything,
  so a run ends at the moment at which it starts;
* `Dispatcher.drainTasks` — drains the queue with this handler.
-/

namespace FleetReconciler

/-- The service that carries out a task. -/
def Task.execute (settings : DiscoverySettings) (t : Task) : Service Unit :=
  Service.within (.task t)
    (match t with
    | .fetchInstances key => discover key settings
    | .deletePending key => FleetReconciler.deletePending key
    | .deleteDrained key => FleetReconciler.deleteDrained key)

/-- The failure of a result, if it has one. -/
def failure? {α : Type} : Except Failure α → Option Failure
  | .ok _ => none
  | .error f => some f

variable {σ : Type}

/-- The handler that carries out tasks over a state; `perform` serves the requests. -/
def taskHandler (perform : (r : Request) → σ → r.Reply × σ) (settings : DiscoverySettings) :
    Handler σ Outcome where
  start t s :=
    let (result, s) := (t.execute settings).run perform s
    ((0, { failure := failure? result }), s)
  finish outcome s := (outcome, s)
  note n s := ((perform (.note n) s).2)

/-- Drains the queue. Carrying out a task queues no other, so after as many batches as a task has
attempts nothing is queued. -/
def Dispatcher.drainTasks (perform : (r : Request) → σ → r.Reply × σ) (settings : DiscoverySettings)
    (d : Dispatcher σ) : Dispatcher σ × Report :=
  d.drain (taskHandler perform settings) (max 1 d.settings.maxAttempts.toNat)

end FleetReconciler
