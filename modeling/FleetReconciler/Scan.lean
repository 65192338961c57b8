import FleetReconciler.Store.Transaction
import FleetReconciler.Drain

/-!
# Scan passes

A pass goes over the store and queues a task for each record that needs one. Its result is the
number of tasks.

* `scheduleFetches` — the groups whose manager has a URL are listed;
* `schedulePendingDeletions` — the instances that are marked for deletion are deleted;
* `scheduleDrainedDeletions` — the instances of drained groups are deleted.
-/

namespace FleetReconciler

open Service

/-- Queues tasks in order, up to the first that is refused. -/
def enqueueAll : List Task → Service Unit
  | [] => return
  | t :: ts => do
    enqueue t
    enqueueAll ts

/-- Queues the listing of every group whose manager has a URL. -/
def scheduleFetches : Service Nat := do
  let managers ← records Manager
  let tasks := (managers.filter fun m => m.url?.isSome).map fun m => Task.fetchInstances m.key
  enqueueAll tasks
  note (.fetchesScheduled tasks.length)
  return tasks.length

/-- Queues the deletion of every instance that is marked for deletion. -/
def schedulePendingDeletions : Service Nat := do
  let instances ← records Instance
  let tasks := (instances.filter Instance.awaitsPendingDeletion).map fun i =>
    Task.deletePending i.key
  enqueueAll tasks
  note (.pendingDeletionsScheduled tasks.length)
  return tasks.length

/-- Queues the deletion of those listed instances that may go, and counts them. -/
def scheduleListed : List InstanceKey → Service Nat
  | [] => return 0
  | key :: rest => do
    match ← lookup Instance key with
    | some i =>
      if i.awaitsDrainedDeletion then
        enqueue (.deleteDrained i.key)
        return (← scheduleListed rest) + 1
      else scheduleListed rest
    | none => scheduleListed rest

/-- Queues the deletion of every instance of a drained group that may go. -/
def scheduleDrainedDeletions : Service Nat := do
  let templates ← records Template
  let revisions ← records Revision
  let managers ← records Manager
  let drained := drainedManagers templates revisions managers
  let listed := (managers.filter fun m => m.key ∈ drained).flatMap Manager.instances
  let count ← scheduleListed listed.eraseDups
  note (.drainedDeletionsScheduled count drained.toList.length)
  return count

/-- The scan of a pass. -/
def Pass.schedule : Pass → Service Nat
  | .fetch => scheduleFetches
  | .pendingDeletion => schedulePendingDeletions
  | .drainedDeletion => scheduleDrainedDeletions

end FleetReconciler
