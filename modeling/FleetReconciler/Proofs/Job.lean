import FleetReconciler.Proofs.StoreFaults
import FleetReconciler.Scan

/-!
# The jobs of a reconciler

A job is one of the services with its arguments. What is said about all of them is said
once: a property that a service has when its parts have it is a property of every service if the
parts have it.

* `Service.inTurns` — a service whose own companions take turns in a given order;
* `Job`, `Job.service` — what can be started;
* `Service.Compositional` — a property that a service has when its parts have it, and
  `Service.Changing` for those that look nothing up and change one instance;
* `Compositional.job` — **every service has such a property**, if discovery has it.
-/

namespace FleetReconciler

open Service

/-! ## What can be started -/

namespace Service

variable {α β : Type}

/-- The service with the order in which those that it has in flight take their turns. -/
def inTurns (order : List Nat) : Service α → Service α
  | done a => done a
  | fail f => fail f
  | ask .turns next => inTurns order (next order)
  | ask r next => ask r fun reply => inTurns order (next reply)

/-- Answers that give the order of turns, and are others for every other request. -/
def inOrder (order : List Nat) (answers : (r : Request) → r.Reply) : (r : Request) → r.Reply
  | .turns => order
  | r => answers r

end Service

/-- A service of the reconciler with its arguments. -/
inductive Job where
  /-- List the instances of a group, which are recorded in some order of turns. -/
  | discover (key : ManagerKey) (settings : DiscoverySettings) (order : List Nat)
  | mark (key : InstanceKey)
  | setLease (key : InstanceKey) (expiration : Option Timestamp)
  | subscribe (key : InstanceKey) (project subscription serviceAccount : String)
  | recordDeletion (key : InstanceKey) (time : Timestamp)
  | deletePending (key : InstanceKey)
  | deleteDrained (key : InstanceKey)
  | schedule (pass : Pass)

/-- The service that does a job. -/
def Job.service : Job → Service Unit
  | discover key settings order => (FleetReconciler.discover key settings).inTurns order
  | mark key => do let _ ← markForDeletion key
  | setLease key expiration => do let _ ← FleetReconciler.setLease key expiration
  | subscribe key project subscription serviceAccount => do
    let _ ← addSubscription key project subscription serviceAccount
  | recordDeletion key time => do let _ ← setDeletionTime key time
  | deletePending key => FleetReconciler.deletePending key
  | deleteDrained key => FleetReconciler.deleteDrained key
  | schedule pass => do let _ ← pass.schedule

/-! ## Properties of services that their parts have -/

/-- Whether a request is about neither the store nor the queue. -/
def Request.IsForeign : Request → Prop
  | .listInstances _ | .deleteInstances _ | .now | .send .. | .note _ | .pageBudget | .turns => True
  | _ => False

namespace Service

/-- A property of services that a sequence has when its parts have it, and that does not depend on
the requests in question. -/
structure Sequential (P : (α : Type) → Service α → Prop) : Prop where
  done : ∀ {α : Type} (a : α), P α (done a)
  fail : ∀ {α : Type} {f : Failure}, ¬ f.IsFault → P α (fail f)
  bind : ∀ {α β : Type} {service : Service α} {k : α → Service β}, P α service →
    (∀ a, P β (k a)) → P β (service >>= k)
  foreign : ∀ {α : Type} {r : Request} {next : r.Reply → Service α}, r.IsForeign →
    (∀ reply, P α (next reply)) → P α (ask r next)

/-- Such a property that changes of one instance have. -/
structure Changing (P : (α : Type) → Service α → Prop) (key : InstanceKey) : Prop
    extends Sequential P where
  change : ∀ (context : Context) {rule : Instance → Option Instance},
    (∀ i j, rule i = some j → i.Step j) → P _ (Service.change context key rule)

/-- A property of services that those have whose parts have it. -/
structure Compositional (P : (α : Type) → Service α → Prop) : Prop extends Sequential P where
  within : ∀ {α : Type} {service : Service α} (context : Context), P α service →
    P α (service.within context)
  enqueue : ∀ t : Task, P Unit (enqueue t)
  lookup : ∀ {ρ κ : Type} [Entity ρ κ] [Filed ρ] (key : κ), P (Option ρ) (lookup ρ key)
  records : ∀ (ρ : Type) {κ : Type} [Entity ρ κ] [Filed ρ], P (List ρ) (records ρ)
  change : ∀ (context : Context) (key : InstanceKey) {rule : Instance → Option Instance},
    (∀ i j, rule i = some j → i.Step j) → P _ (Service.change context key rule)

namespace Sequential

variable {P : (α : Type) → Service α → Prop} (hP : Sequential P)
include hP

theorem note (n : Notice) : P Unit (Service.note n) := hP.foreign trivial fun _ => hP.done _

theorem send (event : MachineEvent) (hostname : String) : P Unit (Service.send event hostname) :=
  hP.foreign trivial fun _ => hP.done _

end Sequential

namespace Changing

variable {P : (α : Type) → Service α → Prop} {key : InstanceKey} (hP : Changing P key)
include hP

/-! ### Changes of one instance -/

theorem markForDeletion : P Change (markForDeletion key) := by
  refine hP.bind (hP.change _ fun _ _ => Instance.step_of_mark?) fun result => ?_
  obtain ⟨change, found⟩ := result
  simp only
  split
  · exact hP.bind (hP.note _) fun _ => hP.done _
  · exact hP.bind (hP.note _) fun _ => hP.bind (hP.send _ _) fun _ => hP.done _
  · exact hP.done _

theorem setLease (expiration : Option Timestamp) : P Change (setLease key expiration) := by
  refine hP.bind (hP.change _ fun _ _ => Instance.step_of_lease?) fun result => ?_
  obtain ⟨change, found⟩ := result
  cases change with
  | missing => exact hP.bind (hP.note _) fun _ => hP.done _
  | updated => exact hP.bind (hP.note _) fun _ => hP.done _
  | unchanged => exact hP.done _

theorem addSubscription (project subscription serviceAccount : String) :
    P Change (addSubscription key project subscription serviceAccount) := by
  refine hP.bind (hP.change _ fun _ _ => Instance.step_of_subscribe?) fun result => ?_
  obtain ⟨change, found⟩ := result
  cases change with
  | missing => exact hP.bind (hP.note _) fun _ => hP.done _
  | updated => exact hP.bind (hP.note _) fun _ => hP.done _
  | unchanged => exact hP.done _

theorem setDeletionTime (time : Timestamp) : P Change (setDeletionTime key time) := by
  refine hP.bind (hP.change _ fun _ _ => Instance.step_of_delete?) fun result => ?_
  obtain ⟨change, found⟩ := result
  simp only
  split
  · exact hP.bind (hP.note _) fun _ => hP.done _
  · exact hP.done _

/-! ### The call that deletes it -/

theorem deleteInstance (revision : Revision) (manager : Manager) {i : Instance}
    (hkey : i.key = key) : P Unit (deleteInstance revision manager i) := by
  subst hkey
  unfold FleetReconciler.deleteInstance
  split
  · exact hP.done _
  cases deleteCall? revision manager i with
  | none => exact hP.note _
  | some call =>
    simp only [request, bind_ask, bind_done]
    refine hP.foreign trivial fun time => hP.foreign trivial fun reply => ?_
    cases DeletionAnswer.of reply with
    | accepted =>
      exact hP.bind (hP.setDeletionTime _) fun _ => hP.bind (hP.note _) fun _ => hP.send _ _
    | gone =>
      exact hP.bind (hP.setDeletionTime _) fun _ => hP.bind (hP.note _) fun _ => hP.send _ _
    | refused operation => exact hP.note _
    | failed e => exact hP.fail id

end Changing

namespace Compositional

variable {P : (α : Type) → Service α → Prop} (hP : Compositional P)
include hP

theorem changing (key : InstanceKey) : Changing P key where
  toSequential := hP.toSequential
  change context _ hrule := hP.change context key hrule

/-! ### Deletion -/

theorem ancestors (i : Instance) : P _ i.ancestors := by
  unfold Instance.ancestors
  refine hP.bind (hP.lookup _) fun manager => ?_
  cases manager with
  | none => exact hP.bind (hP.note _) fun _ => hP.done _
  | some manager =>
    refine hP.bind (hP.lookup _) fun revision => ?_
    cases revision with
    | none => exact hP.bind (hP.note _) fun _ => hP.done _
    | some revision =>
      simp only
      split
      · exact hP.bind (hP.note _) fun _ => hP.done _
      · exact hP.done _

theorem deletePending (key : InstanceKey) : P Unit (deletePending key) := by
  unfold FleetReconciler.deletePending
  refine hP.bind (hP.lookup key) fun found => ?_
  cases found with
  | none => exact hP.done _
  | some i =>
    simp only
    split
    · exact hP.done _
    split
    · exact hP.note _
    split
    · exact hP.note _
    refine hP.bind (hP.ancestors i) fun above => ?_
    cases above with
    | none => exact hP.done _
    | some above => exact (hP.changing i.key).deleteInstance above.2 above.1 rfl

theorem deleteDrained (key : InstanceKey) : P Unit (deleteDrained key) := by
  unfold FleetReconciler.deleteDrained
  refine hP.bind (hP.lookup key) fun found => ?_
  cases found with
  | none => exact hP.note _
  | some i =>
    simp only
    split
    · exact hP.done _
    split
    · exact hP.note _
    split
    · exact hP.note _
    refine hP.bind (hP.ancestors i) fun above => ?_
    cases above with
    | none => exact hP.done _
    | some above =>
      refine hP.bind (hP.lookup _) fun template => ?_
      cases template with
      | none => exact hP.note _
      | some template =>
        simp only
        split
        · exact (hP.changing i.key).deleteInstance above.2 above.1 rfl
        · exact hP.note _

/-! ### Listing -/

theorem listPages (call : ListCall) (budget : Nat) :
    P (List String) (listPages call budget) := by
  induction budget generalizing call with
  | zero => exact hP.fail id
  | succ budget ih =>
    simp only [FleetReconciler.listPages, request, bind_ask, bind_done]
    refine hP.foreign trivial fun reply => ?_
    cases reply with
    | error e => exact hP.fail id
    | ok page =>
      simp only
      split
      · exact hP.done _
      · exact hP.bind (ih _) fun _ => hP.done _

theorem listInstances (key : ManagerKey) (pageSize : UInt32) :
    P (List String) (listInstances key pageSize) := by
  unfold FleetReconciler.listInstances
  refine hP.bind (hP.lookup key) fun manager => ?_
  cases manager with
  | none => exact hP.bind (hP.note _) fun _ => hP.done _
  | some manager =>
    simp only
    split
    · exact hP.bind (hP.note _) fun _ => hP.done _
    refine hP.bind (hP.lookup key.parent) fun revision => ?_
    cases revision with
    | none => exact hP.bind (hP.note _) fun _ => hP.done _
    | some revision =>
      simp only
      split
      · exact hP.within _ (hP.foreign trivial fun _ => hP.listPages _ _)
      · exact hP.bind (hP.note _) fun _ => hP.done _

/-! ### Scan passes -/

theorem enqueueAll (tasks : List Task) : P Unit (enqueueAll tasks) := by
  induction tasks with
  | nil => exact hP.done _
  | cons t tasks ih => exact hP.bind (hP.enqueue t) fun _ => ih

theorem scheduleListed (keys : List InstanceKey) : P Nat (scheduleListed keys) := by
  induction keys with
  | nil => exact hP.done _
  | cons key rest ih =>
    refine hP.bind (hP.lookup key) fun found => ?_
    cases found with
    | none => exact ih
    | some i =>
      simp only
      split
      · exact hP.bind (hP.enqueue _) fun _ => hP.bind ih fun _ => hP.done _
      · exact ih

theorem schedule (pass : Pass) : P Nat pass.schedule := by
  cases pass with
  | fetch =>
    exact hP.bind (hP.records Manager) fun _ => hP.bind (hP.enqueueAll _) fun _ =>
      hP.bind (hP.note _) fun _ => hP.done _
  | pendingDeletion =>
    exact hP.bind (hP.records Instance) fun _ => hP.bind (hP.enqueueAll _) fun _ =>
      hP.bind (hP.note _) fun _ => hP.done _
  | drainedDeletion =>
    exact hP.bind (hP.records Template) fun _ => hP.bind (hP.records Revision) fun _ =>
      hP.bind (hP.records Manager) fun _ => hP.bind (hP.scheduleListed _) fun _ =>
      hP.bind (hP.note _) fun _ => hP.done _

/-! ### All services -/

/-- Every service has the property if discovery has it. -/
theorem job (hdiscover : ∀ key settings order, P Unit ((discover key settings).inTurns order))
    (job : Job) : P Unit job.service := by
  cases job with
  | discover key settings order => exact hdiscover key settings order
  | mark key => exact hP.bind (hP.changing key).markForDeletion fun _ => hP.done _
  | setLease key expiration =>
    exact hP.bind ((hP.changing key).setLease expiration) fun _ => hP.done _
  | subscribe key project subscription serviceAccount =>
    exact hP.bind ((hP.changing key).addSubscription project subscription serviceAccount)
      fun _ => hP.done _
  | recordDeletion key time =>
    exact hP.bind ((hP.changing key).setDeletionTime time) fun _ => hP.done _
  | deletePending key => exact hP.deletePending key
  | deleteDrained key => exact hP.deleteDrained key
  | schedule pass => exact hP.bind (hP.schedule pass) fun _ => hP.done _

end Compositional

end Service

end FleetReconciler
