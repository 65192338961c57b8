import FleetReconciler.Lifecycle
import FleetReconciler.Drain

/-!
# Deletion of instances

An instance is deleted by a call to the manager of its group, either because it is marked for
deletion or because its group is drained. The time of deletion is recorded when the call is done or
when the cloud answers that the instance is gone.

* `deleteInstance` — the call and what follows from its answer;
* `Instance.ancestors` — the records above an instance that a deletion needs;
* `deletePending`, `deleteDrained` — the two reasons with their conditions.
-/

namespace FleetReconciler

open Service

/-- The HTTP status by which the cloud says that an instance is not there any more. -/
def goneStatus : Nat := 400

/-- What the answer to a deletion means. -/
inductive DeletionAnswer where
  | accepted
  | gone
  | refused (operation : Operation)
  | failed (error : ComputeError)
  deriving DecidableEq

/-- Reads the answer to a deletion. -/
def DeletionAnswer.of : Except ComputeError Operation → DeletionAnswer
  | .ok operation => if operation.isDone then .accepted else .refused operation
  | .error e => if e.status? = some goneStatus then .gone else .failed e

/-- The call that deletes an instance; none if its URL or its project is not known. -/
def deleteCall? (revision : Revision) (manager : Manager) (i : Instance) : Option DeleteCall := do
  let project ← revision.project?
  let url ← i.url?
  return { project, group := manager.key.groupName, zone := manager.key.zone.text, urls := [url] }

/-- Asks the cloud to delete an instance and records the answer. -/
def deleteInstance (revision : Revision) (manager : Manager) (i : Instance) : Service Unit := do
  if i.deletionTime.isSome then return
  let some call := deleteCall? revision manager i
    | note (.undeletable i.key)
  let time ← request .now
  match DeletionAnswer.of (← request (.deleteInstances call)) with
  | .accepted =>
    let _ ← setDeletionTime i.key time
    note (.deletionScheduled i.key)
    send .deletionScheduled i.hostname
  | .gone =>
    let _ ← setDeletionTime i.key time
    note (.alreadyDeleted i.key)
    send .deletionSucceeded i.hostname
  | .refused operation => note (.operationFailed manager.key operation)
  | .failed e => fail ((Failure.of (.compute e)).within (.deleting i.key))

/-- The manager and the revision of an instance; none, with a warning, if one of them or the project
is missing. -/
def Instance.ancestors (i : Instance) : Service (Option (Manager × Revision)) := do
  let some manager ← lookup Manager i.instanceGroupManager
    | do note (.managerMissing i.instanceGroupManager); return none
  let some revision ← lookup Revision manager.key.parent
    | do note (.revisionMissing manager.key.parent); return none
  if revision.project?.isNone then
    note (.projectUnspecified revision.key)
    return none
  return some (manager, revision)

/-- Deletes an instance that is marked for deletion. -/
def deletePending (key : InstanceKey) : Service Unit := do
  let some i ← lookup Instance key
    | return
  if i.deletionTime.isSome then return
  if !i.pendingDeletion then
    note (.notPending key)
  else if i.url?.isNone then
    note (.instanceUrlUnspecified key)
  else
    let some (manager, revision) ← i.ancestors
      | return
    deleteInstance revision manager i

/-- Deletes an instance that is not in the catalog and whose group is drained. -/
def deleteDrained (key : InstanceKey) : Service Unit := do
  let some i ← lookup Instance key
    | note (.instanceMissing key)
  if i.deletionTime.isSome then return
  if i.cataloged then
    note (.isCataloged key)
  else if i.url?.isNone then
    note (.instanceUrlUnspecified key)
  else
    let some (manager, revision) ← i.ancestors
      | return
    let some template ← lookup Template revision.key.parent
      | note (.templateMissing revision.key.parent)
    if isDrained manager.key revision template then deleteInstance revision manager i
    else note (.isNotDrained key)

end FleetReconciler
