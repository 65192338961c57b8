import FleetReconciler.Key.Reader
import FleetReconciler.Key.Set
import FleetReconciler.Timestamp.Printer
import FleetReconciler.Json.Printer

/-!
# Records

The store holds templates, revisions, instance group managers and instances; each record knows its
own key. Beside them stand the answers of the compute API: pages of instance references and
operations.

An empty project or URL counts as not given (`Revision.project?`, `Manager.url?`, `Instance.url?`).
-/

namespace FleetReconciler

/-! ## Stored records -/

/-- A template from which instance groups are made. -/
structure Template where
  key : TemplateKey
  /-- The drained revisions. -/
  drained : KeySet RevisionKey := ∅
  deriving DecidableEq, Repr

/-- One revision of a template. -/
structure Revision where
  key : RevisionKey
  /-- The cloud project of the instance groups. -/
  project : Option String := none
  /-- The drained managers. -/
  drained : KeySet ManagerKey := ∅
  deriving DecidableEq, Repr

/-- The project, if it is given and not empty. -/
def Revision.project? (r : Revision) : Option String := Text.nonEmpty? r.project

/-- The manager of the instance group of one revision in one zone. -/
structure Manager where
  key : ManagerKey
  /-- The URL of the manager, once the cloud has one. -/
  url : Option String := none
  /-- The instances that the cloud last reported, in its order. -/
  instances : List InstanceKey := []
  deriving DecidableEq, Repr

/-- The URL, if it is given and not empty. -/
def Manager.url? (m : Manager) : Option String := Text.nonEmpty? m.url

/-- A change of the metadata of an instance that is still to be made. -/
structure MetadataUpdate where
  metadata : Table String
  ascending : metadata.Ascending
  deriving DecidableEq, Repr

/-- The update that sets the given entries. -/
def MetadataUpdate.ofList (entries : List (String × String)) : MetadataUpdate :=
  ⟨Table.ofList entries, Table.ascending_ofList entries⟩

/-- One virtual machine of an instance group. -/
structure Instance where
  key : InstanceKey
  url : Option String := none
  hostname : String
  instanceGroupManager : ManagerKey
  pendingDeletion : Bool := false
  /-- When the cloud accepted the deletion. It is set at most once. -/
  deletionTime : Option Timestamp := none
  leaseExpiration : Option Timestamp := none
  cataloged : Bool := false
  subscription : Option String := none
  serviceAccount : Option String := none
  pendingMetadataUpdates : List MetadataUpdate := []
  deriving DecidableEq, Repr

namespace Instance

/-- The URL, if it is given and not empty. -/
def url? (i : Instance) : Option String := Text.nonEmpty? i.url

/-- The record of an instance that was just discovered. -/
def discovered (key : InstanceKey) (url : String) (manager : ManagerKey) : Instance :=
  { key, url := some url, hostname := key.name.text, instanceGroupManager := manager }

/-- Whether the instance is marked for deletion and not deleted yet. -/
def awaitsPendingDeletion (i : Instance) : Bool :=
  i.deletionTime.isNone && i.pendingDeletion

/-- Whether the instance may go when its group is drained: neither deleted nor in the catalog. -/
def awaitsDrainedDeletion (i : Instance) : Bool :=
  i.deletionTime.isNone && !i.cataloged

end Instance

/-! ## Lifecycle events -/

/-- What is reported about the life of a machine. -/
inductive MachineEvent where
  | created
  | deletionProposed
  | deletionScheduled
  | deletionSucceeded
  deriving DecidableEq, Repr

/-- The name of an event. -/
def MachineEvent.text : MachineEvent → String
  | .created => "CREATED"
  | .deletionProposed => "DELETION_PROPOSED"
  | .deletionScheduled => "DELETION_SCHEDULED"
  | .deletionSucceeded => "DELETION_SUCCEEDED"

/-- All events. -/
def MachineEvent.all : List MachineEvent :=
  [.created, .deletionProposed, .deletionScheduled, .deletionSucceeded]

/-! ## Answers of the compute API -/

/-- A member of an instance group. -/
structure InstanceReference where
  /-- The URL of the instance. -/
  url : String
  status : Option String := none
  deriving DecidableEq, Repr

/-- One page of the members of an instance group. -/
structure InstancePage where
  items : List InstanceReference := []
  nextPageToken : Option String := none
  deriving DecidableEq, Repr

/-- A long-running operation of the compute API. -/
structure Operation where
  name : Option String := none
  status : String
  targetLink : Option String := none
  error : Option Json := none
  deriving DecidableEq, Repr

/-- Whether the operation has come to its end. -/
def Operation.isDone (o : Operation) : Bool := o.status = "DONE"

end FleetReconciler
