import FleetReconciler.Record.Basic
import FleetReconciler.Record.Decode

/-!
# Records as JSON

Every record has an `encode`, which writes its members in declared order and leaves out what is not
given, and a `decode`. The class `Entity` is what the four stored records have in common.
-/

namespace FleetReconciler

/-! ## Encoding of members -/

namespace Encode

/-- A key as its text. -/
def key {κ : Type} [EntityKey κ] (k : κ) : Json := .str (EntityKey.text k)

/-- A list of keys. -/
def keys {κ : Type} [EntityKey κ] (ks : List κ) : Json := .arr (ks.map key)

/-- A timestamp in universal time. -/
def timestamp (t : Timestamp) : Json := .str t.zuluText

/-- A member that is left out when it is not given. -/
def optional {α : Type} (name : String) (encode : α → Json) (a : Option α) :
    Option (String × Json) :=
  a.map fun a => (name, encode a)

end Encode

/-! ## Templates -/

namespace Template

/-- The member `key`. -/
def keyField : Field TemplateKey := ⟨"key", Decode.key⟩

/-- The member `drained`. -/
def drainedField : Field (KeySet RevisionKey) := ⟨"drained", Decode.keySet⟩

/-- The shape of a template. -/
def shape : RecordShape := ⟨Kind.template.name, [keyField.needed, drainedField.spare]⟩

/-- The template of a JSON value. -/
def decode : Decoder Template := fun j => do
  let v ← shape.view j
  return { key := ← keyField.required v, drained := ← drainedField.defaulted ∅ v }

/-- The JSON value of a template. -/
def encode (t : Template) : Json :=
  .ofMembers [
    some ("key", Encode.key t.key),
    some ("drained", Encode.keys t.drained.toList)]

end Template

/-! ## Revisions -/

namespace Revision

/-- The member `key`. -/
def keyField : Field RevisionKey := ⟨"key", Decode.key⟩

/-- The member `project`. -/
def projectField : Field (Option String) := ⟨"project", Decode.optional Decode.string⟩

/-- The member `drained`. -/
def drainedField : Field (KeySet ManagerKey) := ⟨"drained", Decode.keySet⟩

/-- The shape of a revision. -/
def shape : RecordShape :=
  ⟨Kind.revision.name, [keyField.needed, projectField.spare, drainedField.spare]⟩

/-- The revision of a JSON value. -/
def decode : Decoder Revision := fun j => do
  let v ← shape.view j
  return {
    key := ← keyField.required v
    project := ← projectField.defaulted none v
    drained := ← drainedField.defaulted ∅ v }

/-- The JSON value of a revision. -/
def encode (r : Revision) : Json :=
  .ofMembers [
    some ("key", Encode.key r.key),
    Encode.optional "project" .str r.project,
    some ("drained", Encode.keys r.drained.toList)]

end Revision

/-! ## Managers -/

namespace Manager

/-- The member `key`. -/
def keyField : Field ManagerKey := ⟨"key", Decode.key⟩

/-- The member `url`. -/
def urlField : Field (Option String) := ⟨"url", Decode.optional Decode.string⟩

/-- The member `instances`. -/
def instancesField : Field (List InstanceKey) := ⟨"instances", Decode.list Decode.key⟩

/-- The shape of a manager. -/
def shape : RecordShape :=
  ⟨Kind.manager.name, [keyField.needed, urlField.spare, instancesField.spare]⟩

/-- The manager of a JSON value. -/
def decode : Decoder Manager := fun j => do
  let v ← shape.view j
  return {
    key := ← keyField.required v
    url := ← urlField.defaulted none v
    instances := ← instancesField.defaulted [] v }

/-- The JSON value of a manager. -/
def encode (m : Manager) : Json :=
  .ofMembers [
    some ("key", Encode.key m.key),
    Encode.optional "url" .str m.url,
    some ("instances", Encode.keys m.instances)]

end Manager

/-! ## Metadata updates -/

namespace MetadataUpdate

/-- The member `metadata`. -/
def metadataField : Field (Table String) := ⟨"metadata", Decode.table Decode.string⟩

/-- The shape of a metadata update. -/
def shape : RecordShape := ⟨"MetadataUpdate", [metadataField.spare]⟩

/-- The metadata update of a JSON value. -/
def decode : Decoder MetadataUpdate := fun j => do
  let v ← shape.view j
  return ofList (← metadataField.defaulted [] v)

/-- The JSON value of a metadata update. -/
def encode (u : MetadataUpdate) : Json :=
  .ofMembers [some ("metadata", .obj (u.metadata.map fun (n, s) => (n, .str s)))]

end MetadataUpdate

/-! ## Instances -/

namespace Instance

/-- The member `key`. -/
def keyField : Field InstanceKey := ⟨"key", Decode.key⟩

/-- The member `url`. -/
def urlField : Field (Option String) := ⟨"url", Decode.optional Decode.string⟩

/-- The member `hostname`. -/
def hostnameField : Field String := ⟨"hostname", Decode.string⟩

/-- The member `instance_group_manager`. -/
def managerField : Field ManagerKey := ⟨"instance_group_manager", Decode.key⟩

/-- The member `pending_deletion`. -/
def pendingDeletionField : Field Bool := ⟨"pending_deletion", Decode.boolean⟩

/-- The member `deletion_ts`. -/
def deletionTimeField : Field (Option Timestamp) :=
  ⟨"deletion_ts", Decode.optional Decode.timestamp⟩

/-- The member `lease_expiration_ts`. -/
def leaseExpirationField : Field (Option Timestamp) :=
  ⟨"lease_expiration_ts", Decode.optional Decode.timestamp⟩

/-- The member `cataloged`. -/
def catalogedField : Field Bool := ⟨"cataloged", Decode.boolean⟩

/-- The member `pubsub_subscription`. -/
def subscriptionField : Field (Option String) :=
  ⟨"pubsub_subscription", Decode.optional Decode.string⟩

/-- The member `pubsub_service_account`. -/
def serviceAccountField : Field (Option String) :=
  ⟨"pubsub_service_account", Decode.optional Decode.string⟩

/-- The member `pending_metadata_updates`. -/
def metadataUpdatesField : Field (List MetadataUpdate) :=
  ⟨"pending_metadata_updates", Decode.list MetadataUpdate.decode⟩

/-- The shape of an instance. -/
def shape : RecordShape :=
  ⟨Kind.machine.name, [
    keyField.needed, urlField.spare, hostnameField.needed, managerField.needed,
    pendingDeletionField.spare, deletionTimeField.spare, leaseExpirationField.spare,
    catalogedField.spare, subscriptionField.spare, serviceAccountField.spare,
    metadataUpdatesField.spare]⟩

/-- The instance of a JSON value. -/
def decode : Decoder Instance := fun j => do
  let v ← shape.view j
  return {
    key := ← keyField.required v
    url := ← urlField.defaulted none v
    hostname := ← hostnameField.required v
    instanceGroupManager := ← managerField.required v
    pendingDeletion := ← pendingDeletionField.defaulted false v
    deletionTime := ← deletionTimeField.defaulted none v
    leaseExpiration := ← leaseExpirationField.defaulted none v
    cataloged := ← catalogedField.defaulted false v
    subscription := ← subscriptionField.defaulted none v
    serviceAccount := ← serviceAccountField.defaulted none v
    pendingMetadataUpdates := ← metadataUpdatesField.defaulted [] v }

/-- The JSON value of an instance. -/
def encode (i : Instance) : Json :=
  .ofMembers [
    some ("key", Encode.key i.key),
    Encode.optional "url" .str i.url,
    some ("hostname", .str i.hostname),
    some ("instance_group_manager", Encode.key i.instanceGroupManager),
    some ("pending_deletion", .bool i.pendingDeletion),
    Encode.optional "deletion_ts" Encode.timestamp i.deletionTime,
    Encode.optional "lease_expiration_ts" Encode.timestamp i.leaseExpiration,
    some ("cataloged", .bool i.cataloged),
    Encode.optional "pubsub_subscription" .str i.subscription,
    Encode.optional "pubsub_service_account" .str i.serviceAccount,
    some ("pending_metadata_updates", .arr (i.pendingMetadataUpdates.map MetadataUpdate.encode))]

end Instance

/-! ## Stored records -/

/-- A record that the store holds under the text of its key. -/
class Entity (ρ : Type) (κ : outParam Type) extends EntityKey κ where
  /-- The key that the record holds. -/
  key : ρ → κ
  /-- The JSON value of a record, members in declared order. -/
  encode : ρ → Json
  /-- The record of a JSON value. -/
  decode : Decoder ρ

instance : Entity Template TemplateKey := ⟨Template.key, Template.encode, Template.decode⟩

instance : Entity Revision RevisionKey := ⟨Revision.key, Revision.encode, Revision.decode⟩

instance : Entity Manager ManagerKey := ⟨Manager.key, Manager.encode, Manager.decode⟩

instance : Entity Instance InstanceKey := ⟨Instance.key, Instance.encode, Instance.decode⟩

/-- The form in which a record is stored: members in ascending order. -/
def Entity.stored {ρ κ : Type} [Entity ρ κ] (r : ρ) : Json := (Entity.encode r).sorted

/-- Checks whether a JSON value is a record of a kind. -/
def Kind.check : Kind → Json → Except DecodeError Unit
  | .template, j => (Template.decode j).map fun _ => ()
  | .revision, j => (Revision.decode j).map fun _ => ()
  | .manager, j => (Manager.decode j).map fun _ => ()
  | .machine, j => (Instance.decode j).map fun _ => ()

/-! ## Lifecycle events -/

namespace MachineEvent

/-- The JSON value of an event: its name. -/
def encode (e : MachineEvent) : Json := .str e.text

/-- The event of a name. -/
def ofName (name : String) : Except DecodeError MachineEvent :=
  match all.find? (fun e => e.text = name) with
  | some e => .ok e
  | none => .error (.unknownVariant name (all.map text))

/-- The event of a JSON value: its name, or an object that maps the name to null. -/
def decode : Decoder MachineEvent
  | .str name => ofName name
  | .obj [(name, j)] => do
    let e ← ofName name
    match j with
    | .null => return e
    | j => Decode.mismatch "unit" j
  | .obj _ => .error (.invalidValue .map "map with a single key")
  | j => Decode.mismatch "string or map" j

end MachineEvent

/-! ## Answers of the compute API -/

namespace InstanceReference

/-- The member `instance`. -/
def urlField : Field String := ⟨"instance", Decode.string⟩

/-- The member `status`. -/
def statusField : Field (Option String) := ⟨"status", Decode.optional Decode.string⟩

/-- The shape of an instance reference. -/
def shape : RecordShape := ⟨"InstanceReference", [urlField.needed, statusField.spare]⟩

/-- The instance reference of a JSON value. -/
def decode : Decoder InstanceReference := fun j => do
  let v ← shape.view j
  return { url := ← urlField.required v, status := ← statusField.defaulted none v }

/-- The JSON value of an instance reference. -/
def encode (r : InstanceReference) : Json :=
  .ofMembers [some ("instance", .str r.url), Encode.optional "status" .str r.status]

end InstanceReference

namespace InstancePage

/-- The member `items`. -/
def itemsField : Field (List InstanceReference) :=
  ⟨"items", Decode.list InstanceReference.decode⟩

/-- The member `nextPageToken`. -/
def tokenField : Field (Option String) := ⟨"nextPageToken", Decode.optional Decode.string⟩

/-- The shape of a page. -/
def shape : RecordShape := ⟨"InstanceGroupPage", [itemsField.spare, tokenField.spare]⟩

/-- The page of a JSON value. -/
def decode : Decoder InstancePage := fun j => do
  let v ← shape.view j
  return { items := ← itemsField.defaulted [] v, nextPageToken := ← tokenField.defaulted none v }

/-- The JSON value of a page. -/
def encode (p : InstancePage) : Json :=
  .ofMembers [
    some ("items", .arr (p.items.map InstanceReference.encode)),
    Encode.optional "nextPageToken" .str p.nextPageToken]

end InstancePage

namespace Operation

/-- The member `name`. -/
def nameField : Field (Option String) := ⟨"name", Decode.optional Decode.string⟩

/-- The member `status`. -/
def statusField : Field String := ⟨"status", Decode.string⟩

/-- The member `targetLink`. -/
def targetLinkField : Field (Option String) := ⟨"targetLink", Decode.optional Decode.string⟩

/-- The member `error`, any value. -/
def errorField : Field (Option Json) := ⟨"error", Decode.optional .ok⟩

/-- The shape of an operation. -/
def shape : RecordShape :=
  ⟨"Operation", [nameField.spare, statusField.needed, targetLinkField.spare, errorField.spare]⟩

/-- The operation of a JSON value. -/
def decode : Decoder Operation := fun j => do
  let v ← shape.view j
  return {
    name := ← nameField.defaulted none v
    status := ← statusField.required v
    targetLink := ← targetLinkField.defaulted none v
    error := ← errorField.defaulted none v }

/-- The JSON value of an operation. -/
def encode (o : Operation) : Json :=
  .ofMembers [
    Encode.optional "name" .str o.name,
    some ("status", .str o.status),
    Encode.optional "targetLink" .str o.targetLink,
    Encode.optional "error" id o.error]

end Operation

end FleetReconciler
