import FleetReconciler.Failure
import FleetReconciler.Record.Codec

/-!
# Notices

What the reconciler writes to its log: a level, a message, and fields with a name and a text.
-/

namespace FleetReconciler

/-- How important a notice is. -/
inductive NoticeLevel where
  | info
  | warning
  | error
  deriving DecidableEq, Repr

/-- The name of a level. -/
def NoticeLevel.text : NoticeLevel → String
  | .info => "INFO"
  | .warning => "WARN"
  | .error => "ERROR"

/-- The scan passes over the store. -/
inductive Pass where
  | fetch
  | pendingDeletion
  | drainedDeletion
  deriving DecidableEq, Repr

/-- The name of a pass. -/
def Pass.text : Pass → String
  | .fetch => "fetch"
  | .pendingDeletion => "pending-deletion"
  | .drainedDeletion => "drained-deletion"

/-- Everything that is written to the log. -/
inductive Notice where
  | managerMissing (key : ManagerKey)
  | groupUrlUnspecified (key : ManagerKey)
  | revisionMissing (key : RevisionKey)
  | projectUnspecified (key : RevisionKey)
  | templateMissing (key : TemplateKey)
  | instanceCreated (key : InstanceKey)
  | instancesUpdated (key : ManagerKey) (count : Nat)
  | instanceMissing (key : InstanceKey)
  | markedForDeletion (key : InstanceKey)
  | leaseChanged (key : InstanceKey) (old new : Option Timestamp)
  | subscriptionReceived (key : InstanceKey)
  | undeletable (key : InstanceKey)
  | deletionScheduled (key : InstanceKey)
  | alreadyDeleted (key : InstanceKey)
  | operationFailed (key : ManagerKey) (operation : Operation)
  | notPending (key : InstanceKey)
  | instanceUrlUnspecified (key : InstanceKey)
  | isCataloged (key : InstanceKey)
  | isNotDrained (key : InstanceKey)
  | fetchesScheduled (count : Nat)
  | pendingDeletionsScheduled (count : Nat)
  | drainedDeletionsScheduled (count drained : Nat)
  | redelivering (task : Task) (attempt : Nat) (failure : Failure)
  | dropped (task : Task) (attempts : Nat) (failure : Failure)
  | unauthenticated
  | machineEvent (event : MachineEvent) (hostname : String)
  | reconcilerStarted (fetchSeconds deletionSeconds : Nat)
  | reconcilerStopped (succeeded redelivered dropped : Nat)
  | shuttingDown
  | passFailed (pass : Pass) (failure : Failure)
  deriving DecidableEq, Repr

namespace Notice

/-- The level of a notice. -/
def level : Notice → NoticeLevel
  | instanceCreated _ | instancesUpdated .. | markedForDeletion _ | leaseChanged ..
  | subscriptionReceived _ | deletionScheduled _ | alreadyDeleted _ | fetchesScheduled _
  | pendingDeletionsScheduled _ | drainedDeletionsScheduled .. | machineEvent ..
  | reconcilerStarted .. | reconcilerStopped .. | shuttingDown => .info
  | dropped .. | passFailed .. => .error
  | _ => .warning

/-- The text of a lease that may be unset. -/
def leaseText (t : Option Timestamp) : String := (t.map Timestamp.offsetText).getD "none"

/-- The message of a notice. -/
def message : Notice → String
  | managerMissing _ => "instance group manager does not exist"
  | groupUrlUnspecified _ => "instance group URL unspecified"
  | revisionMissing _ => "instance template revision does not exist"
  | projectUnspecified _ => "instance template revision project unspecified"
  | templateMissing _ => "instance template does not exist"
  | instanceCreated _ => "instance created"
  | instancesUpdated .. => "instance group manager instances updated"
  | instanceMissing _ => "instance does not exist"
  | markedForDeletion _ => "instance marked for deletion"
  | leaseChanged _ old new => "lease expiration " ++ leaseText old ++ " -> " ++ leaseText new
  | subscriptionReceived _ => "instance pub/sub subscription received"
  | undeletable _ => "instance cannot be deleted without project and URL"
  | deletionScheduled _ => "instance deletion scheduled"
  | alreadyDeleted _ => "instance already deleted"
  | operationFailed _ operation =>
    "instance group manager operation failed:\n" ++ operation.encode.pretty
  | notPending _ => "instance not pending deletion"
  | instanceUrlUnspecified _ => "instance URL unspecified"
  | isCataloged _ => "instance is cataloged"
  | isNotDrained _ => "instance is not drained"
  | fetchesScheduled _ => "scheduled instance fetches"
  | pendingDeletionsScheduled _ => "scheduled pending deletions"
  | drainedDeletionsScheduled .. => "scheduled drained deletions"
  | redelivering _ _ failure => "task failed, redelivering: " ++ failure.message
  | dropped _ _ failure => "task dropped: " ++ failure.message
  | unauthenticated => "no compute API access token configured; requests are unauthenticated"
  | machineEvent .. => "machine event"
  | reconcilerStarted .. => "reconciler started"
  | reconcilerStopped .. => "reconciler stopped"
  | shuttingDown => "shutting down"
  | passFailed _ failure => "scan pass failed: " ++ failure.message

/-- The field that names a record. -/
def keyed {κ : Type} [EntityKey κ] (k : κ) : String × String := ("key", EntityKey.text k)

/-- The fields of a notice, in the order of their names. -/
def fields : Notice → List (String × String)
  | managerMissing k | groupUrlUnspecified k | operationFailed k _ => [keyed k]
  | revisionMissing k | projectUnspecified k => [keyed k]
  | templateMissing k => [keyed k]
  | instanceCreated k | instanceMissing k | markedForDeletion k | leaseChanged k _ _
  | subscriptionReceived k | undeletable k | deletionScheduled k | alreadyDeleted k | notPending k
  | instanceUrlUnspecified k | isCataloged k | isNotDrained k => [keyed k]
  | instancesUpdated k count => [("count", Decimal.text count), keyed k]
  | fetchesScheduled count | pendingDeletionsScheduled count => [("count", Decimal.text count)]
  | drainedDeletionsScheduled count drained =>
    [("count", Decimal.text count), ("drained", Decimal.text drained)]
  | redelivering task attempt _ => [("attempt", Decimal.text attempt), ("task", task.text)]
  | dropped task attempts _ => [("attempts", Decimal.text attempts), ("task", task.text)]
  | machineEvent event hostname => [("event", event.text), ("hostname", hostname)]
  | reconcilerStarted fetch deletion =>
    [("deletion_interval_secs", Decimal.text deletion),
      ("fetch_interval_secs", Decimal.text fetch)]
  | reconcilerStopped succeeded again lost =>
    [("dropped", Decimal.text lost), ("redelivered", Decimal.text again),
      ("succeeded", Decimal.text succeeded)]
  | passFailed pass _ => [("pass", pass.text)]
  | unauthenticated | shuttingDown => []

/-- A notice as JSON: level, message, fields. -/
def encode (n : Notice) : Json :=
  .arr [.str n.level.text, .str n.message, .obj (n.fields.map fun (name, s) => (name, .str s))]

end Notice

end FleetReconciler
