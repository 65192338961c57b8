import FleetReconciler.Change
import FleetReconciler.InstanceUrl

/-!
# Discovery of instances

The instances of a group are listed page by page; each that is listed gets a record, and the manager
of the group gets the list.

* `listInstances` — the URLs of the instances of a group;
* `ensureInstance` — a record for one instance, and an event if it is new;
* `setInstances` — the list of a manager, which is written only when its set of keys changes;
* `discover` — all of it.
-/

namespace FleetReconciler

open Service

/-! ## Listing -/

/-- The token of the next page, if there is one. -/
def InstancePage.next? (p : InstancePage) : Option String := Text.nonEmpty? p.nextPageToken

/-- The URLs of a page and of those after it, at most `budget` pages in all. -/
def listPages (call : ListCall) : Nat → Service (List String)
  | 0 => fail (.of .endlessListing)
  | budget + 1 => do
    match ← request (.listInstances call) with
    | .error e => fail (.of (.compute e))
    | .ok page =>
      let urls := page.items.map InstanceReference.url
      match page.next? with
      | none => return urls
      | some token => return urls ++ (← listPages { call with token := some token } budget)

/-- The URLs of the instances of a group, in the order of the listing. There are none, with a
warning, where the group cannot be listed for want of a record, a URL or a project. -/
def listInstances (key : ManagerKey) (pageSize : UInt32) : Service (List String) := do
  let some manager ← lookup Manager key
    | do note (.managerMissing key); return []
  if manager.url?.isNone then
    note (.groupUrlUnspecified key)
    return []
  let some revision ← lookup Revision key.parent
    | do note (.revisionMissing key.parent); return []
  let some project := revision.project?
    | do note (.projectUnspecified revision.key); return []
  let call : ListCall :=
    { project, group := key.groupName, zone := key.zone.text, pageSize, token := none }
  within (.listing call.group call.zone) (do listPages call (← request .pageBudget))

/-! ## Records of instances -/

/-- The mutation that makes a record where there is none, and says whether it did. -/
def Instance.createIfMissing (created : Instance) : Option Instance → Option Instance × Bool
  | none => (some created, true)
  | some i => (some i, false)

/-- Makes a record for an instance unless there is one, and reports a new one. -/
def ensureInstance (key : InstanceKey) (url : String) (manager : ManagerKey) : Service Unit := do
  if (← lookup Instance key).isSome then return
  let create := Instance.createIfMissing (.discovered key url manager)
  let created ← within (.creating key) (transact key create)
  if created.value then
    note (.instanceCreated key)
    send .created ((instanceName? url).getD key.name.text)

/-- The key of the instance of a manager that has a given URL. -/
def ManagerKey.instanceAt (manager : ManagerKey) (url : String) : Except Failure InstanceKey :=
  match instanceName? url with
  | none => .error (.of (.unnamedInstance url))
  | some name =>
    inContext (.instanceUrl url) ((manager.instanceNamed name).mapError fun e => .of (.key e))

/-! ## The list of a manager -/

/-- The manager with another list of instances, unless the list has the same set of keys. -/
def Manager.list? (instances : List InstanceKey) (m : Manager) : Option Manager :=
  if KeySet.ofList m.instances = KeySet.ofList instances then none
  else some { m with instances }

/-- Records the instances of a manager. -/
def setInstances (key : ManagerKey) (instances : List InstanceKey) : Service Change := do
  let (change, _) ← Service.change (.updatingInstances key) key (Manager.list? instances)
  match change with
  | .missing => note (.managerMissing key)
  | .updated => note (.instancesUpdated key instances.length)
  | .unchanged => return change
  return change

/-! ## Discovery -/

/-- The failure of the first result that has failed. -/
def firstFailure? {α : Type} (results : List (Except Failure α)) : Option Failure :=
  results.findSome? fun
    | .ok _ => none
    | .error f => some f

/-- Lists the instances of a group, makes records for those that have none, and records the list.
The list is left as it is when any record cannot be made. -/
def discover (key : ManagerKey) (settings : DiscoverySettings) : Service Unit := do
  let urls := (← listInstances key settings.pageSize).eraseDups
  if urls = [] then
    let _ ← setInstances key []
    return
  let keys ← lift (urls.mapM key.instanceAt)
  let creations := (keys.zip urls).map fun (k, url) => ensureInstance k url key
  let results ← gather (max settings.maxConcurrent.toNat 1) creations
  match firstFailure? results with
  | some f => fail (f.within (.recordingInstances key))
  | none =>
    let _ ← setInstances key keys

end FleetReconciler
