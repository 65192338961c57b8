import FleetReconciler.Change
import FleetReconciler.InstanceUrl

/-!
# The life of an instance record

Four changes of the record of an instance. Each has a rule that says which record follows, and none
where the record is already as wanted.

* `Instance.mark?`, `markForDeletion` — mark for deletion, which ends the lease;
* `Instance.lease?`, `setLease` — set or clear the end of the lease;
* `Instance.subscribe?`, `addSubscription` — record the subscription, once;
* `Instance.delete?`, `setDeletionTime` — record the time of deletion, once.
-/

namespace FleetReconciler

namespace Instance

/-- The record marked for deletion. -/
def mark? (i : Instance) : Option Instance :=
  if i.pendingDeletion then none
  else some { i with leaseExpiration := none, pendingDeletion := true }

/-- The record with another end of its lease. -/
def lease? (expiration : Option Timestamp) (i : Instance) : Option Instance :=
  if i.leaseExpiration = expiration then none
  else some { i with leaseExpiration := expiration }

/-- The metadata that tell an instance its subscription. -/
def subscriptionUpdate (project subscription serviceAccount : String) : MetadataUpdate :=
  .ofList [
    ("pubsub_service_account", serviceAccount),
    ("pubsub_subscription", subscription),
    ("pubsub_subscription_project", project)]

/-- The record with a subscription, unless it has one. -/
def subscribe? (project subscription serviceAccount : String) (i : Instance) : Option Instance :=
  if (Text.nonEmpty? i.subscription).isSome then none
  else
    let update := subscriptionUpdate project subscription serviceAccount
    some { i with
      pendingMetadataUpdates := i.pendingMetadataUpdates ++ [update]
      serviceAccount := some serviceAccount
      subscription := some (subscriptionPath project subscription) }

/-- The record with a time of deletion, unless it has one. -/
def delete? (time : Timestamp) (i : Instance) : Option Instance :=
  if i.deletionTime.isSome then none else some { i with deletionTime := some time }

end Instance

open Service

/-- Marks an instance for deletion and reports that its deletion is proposed. -/
def markForDeletion (key : InstanceKey) : Service Change := do
  let (change, found) ← Service.change (.marking key) key Instance.mark?
  match change, found with
  | .missing, _ => note (.instanceMissing key)
  | .updated, some i =>
    note (.markedForDeletion key)
    send .deletionProposed i.hostname
  | _, _ => return change
  return change

/-- Sets the end of the lease of an instance, or clears it. -/
def setLease (key : InstanceKey) (expiration : Option Timestamp) : Service Change := do
  let (change, found) ← Service.change (.updatingLease key) key (Instance.lease? expiration)
  match change with
  | .missing => note (.instanceMissing key)
  | .updated => note (.leaseChanged key (found.bind Instance.leaseExpiration) expiration)
  | .unchanged => return change
  return change

/-- Records the subscription of an instance. -/
def addSubscription (key : InstanceKey) (project subscription serviceAccount : String) :
    Service Change := do
  let rule := Instance.subscribe? project subscription serviceAccount
  let (change, _) ← Service.change (.recordingSubscription key) key rule
  match change with
  | .missing => note (.instanceMissing key)
  | .updated => note (.subscriptionReceived key)
  | .unchanged => return change
  return change

/-- Records when an instance was deleted. The first time that is recorded stays. -/
def setDeletionTime (key : InstanceKey) (time : Timestamp) : Service Change := do
  let (change, _) ← Service.change (.recordingDeletion key) key (Instance.delete? time)
  if change = .missing then note (.instanceMissing key)
  return change

end FleetReconciler
