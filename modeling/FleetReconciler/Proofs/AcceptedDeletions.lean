import FleetReconciler.Proofs.DrainedScan

/-!
# Deletions that the cloud accepts

The store is sound and the cloud accepts every deletion, so the task of a deletion cannot fail. It
deletes its instance if all that it looks for is there, and else it says in the log what is missing.
Nothing else changes: the instance can be queued and tried again.

* `DeletionRun.Due` — a deletion has all it needs; `DeletionRun.due_iff` — what it looks for;
* `Accepting`, `Cloud.AcceptsDeletions` — an answer that accepts a deletion, and a cloud that gives
  no other;
* `Session.Attempted` — what a deletion makes of a session;
* `Session.Attempts` — a service ends well and does this, by one lemma for each of its parts;
* `Session.attempts_task` — **every deletion ends well and deletes its instance just if it is due**.
-/

namespace FleetReconciler

open Service

namespace MemoryStore

variable {ρ κ : Type} [Entity ρ κ] {s t : MemoryStore} {key : κ}

theorem read_unique {r r' : ρ} (h : s.read ρ key = .ok (some r))
    (h' : s.read ρ key = .ok (some r')) : r = r' :=
  Option.some.inj (Except.ok.inj (h.symm.trans h'))

theorem read_congr (h : t.find? (EntityKey.kind κ) (EntityKey.text key) =
    s.find? (EntityKey.kind κ) (EntityKey.text key)) : t.read ρ key = s.read ρ key := by
  unfold read
  rw [h]

/-- Two stores have the same records above the instances. -/
structure SameAbove (s t : MemoryStore) : Prop where
  templates : ∀ key, t.read Template key = s.read Template key
  revisions : ∀ key, t.read Revision key = s.read Revision key
  managers : ∀ key, t.read Manager key = s.read Manager key

theorem SameAbove.symm (h : s.SameAbove t) : t.SameAbove s :=
  ⟨fun key => (h.templates key).symm, fun key => (h.revisions key).symm,
    fun key => (h.managers key).symm⟩

end MemoryStore

/-! ## What is due -/

namespace DeletionRun

/-- A deletion has all it needs for its call: it is eligible, and the manager of its instance has a
record. -/
def Due (x : DeletionRun) (s : MemoryStore) (call : DeleteCall) : Prop :=
  ∃ i manager, x.Eligible s i call ∧ s.read Manager i.instanceGroupManager = .ok (some manager)

variable {x y : DeletionRun} {s t : MemoryStore}

/-- Two deletions of an instance that are both due make the same call. -/
theorem Due.call_eq {call call' : DeleteCall} (h : x.Due s call) (h' : y.Due s call')
    (hkey : x.key = y.key) : call = call' := by
  obtain ⟨i, -, ⟨found, -, revision, project, url, hrevision, -, hproject, -, hurl, -, rfl⟩, -⟩ := h
  obtain ⟨i', -, ⟨found', -, revision', project', url', hrevision', -, hproject', -, hurl', -, rfl⟩,
    -⟩ := h'
  rw [hkey] at found
  obtain rfl : i = i' := MemoryStore.read_unique found found'
  obtain rfl : revision = revision' := MemoryStore.read_unique hrevision hrevision'
  obtain rfl : project = project' := Option.some.inj (hproject.symm.trans hproject')
  obtain rfl : url = url' := Option.some.inj (hurl.symm.trans hurl')
  rfl

/-- What is due depends on the instance and on the records above it only. -/
theorem Due.of_sameAbove {call : DeleteCall} (h : x.Due s call) (habove : s.SameAbove t)
    (hinstance : t.read Instance x.key = s.read Instance x.key) : x.Due t call := by
  obtain ⟨i, manager, ⟨found, alive, revision, project, url, hrevision, reason, hrest⟩,
    hmanager⟩ := h
  have reason' : x.Reason t i revision := by
    cases x with
    | pending key => exact reason
    | drained key =>
      obtain ⟨hout, template, htemplate, hdrained⟩ := reason
      exact ⟨hout, template, (habove.templates _).trans htemplate, hdrained⟩
  exact ⟨i, manager, ⟨hinstance.trans found, alive, revision, project, url,
    (habove.revisions _).trans hrevision, reason', hrest⟩, (habove.managers _).trans hmanager⟩

/-- A deletion is due just if it finds what it looks for: its instance is alive and has a URL, the
manager and the revision are there, they give the reason, and the revision names a project. -/
theorem due_iff {i : Instance} (hmanagers : s.Holds Manager)
    (found : s.read Instance x.key = .ok (some i)) (call : DeleteCall) :
    x.Due s call ↔ i.deletionTime = none ∧ ∃ manager revision project url,
      s.read Manager i.instanceGroupManager = .ok (some manager) ∧
      s.read Revision manager.key.parent = .ok (some revision) ∧ x.Reason s i revision ∧
      revision.project? = some project ∧ i.url? = some url ∧
      call = {
        project
        group := manager.key.groupName
        zone := manager.key.zone.text
        urls := [url] } := by
  constructor
  · rintro ⟨i', manager, ⟨found', alive, revision, project, url, hrevision, reason, hproject,
      hproject', hurl, hurl', rfl⟩, hmanager⟩
    obtain rfl : i = i' := MemoryStore.read_unique found found'
    have hkey : manager.key = i.instanceGroupManager := hmanagers.key_eq hmanager
    exact ⟨alive, manager, revision, project, url, hmanager, hkey ▸ hrevision, reason,
      Text.nonEmpty?_eq_some.2 ⟨hproject, hproject'⟩, Text.nonEmpty?_eq_some.2 ⟨hurl, hurl'⟩,
      by rw [hkey]⟩
  · rintro ⟨alive, manager, revision, project, url, hmanager, hrevision, reason, hproject, hurl,
      rfl⟩
    have hkey : manager.key = i.instanceGroupManager := hmanagers.key_eq hmanager
    obtain ⟨hproject, hproject'⟩ := Text.nonEmpty?_eq_some.1 hproject
    obtain ⟨hurl, hurl'⟩ := Text.nonEmpty?_eq_some.1 hurl
    exact ⟨i, manager, ⟨found, alive, revision, project, url, hkey ▸ hrevision, reason, hproject,
      hproject', hurl, hurl', by rw [hkey]⟩, hmanager⟩

/-- Nothing is due for an instance without a record. -/
theorem not_due_of_missing (h : s.read Instance x.key = .ok none) (call : DeleteCall) :
    ¬ x.Due s call := by
  rintro ⟨i, manager, ⟨found, -⟩, -⟩
  rw [h] at found
  cases found

end DeletionRun

/-! ## The call and its recording -/

section Served

variable {κ : Type} {c : Cloud κ}

/-- The answer to a deletion is that the operation is done or, by its status, that the instance is
gone. -/
def Accepting : Except ComputeError Operation → Prop
  | .ok operation => operation.isDone = true
  | .error e => e.status? = some goneStatus

theorem Accepting.event? {answer : Except ComputeError Operation} (h : Accepting answer) :
    ∃ event, (DeletionAnswer.of answer).event? = some event := by
  cases answer with
  | ok operation => exact ⟨.deletionScheduled, congrArg DeletionAnswer.event? (if_pos h)⟩
  | error e => exact ⟨.deletionSucceeded, congrArg DeletionAnswer.event? (if_pos h)⟩

/-- Whatever is deleted from some state of the cloud on, it accepts. -/
def Cloud.AcceptsDeletions (c : Cloud κ) (k : κ) : Prop :=
  ∀ (before : List DeleteCall) (call : DeleteCall),
    Accepting (c.delete call (before.foldl (fun k call => (c.delete call k).2) k)).1

theorem Cloud.AcceptsDeletions.delete {k : κ} (h : c.AcceptsDeletions k) (call : DeleteCall) :
    c.AcceptsDeletions (c.delete call k).2 :=
  fun before => h (call :: before)

/-- A script with such answers accepts every deletion, as those after it are done. -/
theorem CloudScript.acceptsDeletions {k : CloudScript}
    (h : ∀ answer ∈ k.delete, Accepting answer) : cloud.AcceptsDeletions k := by
  intro before call
  induction before generalizing k with
  | nil =>
    obtain ⟨list, delete⟩ := k
    cases delete with
    | nil => exact (rfl : CloudScript.doneOperation.isDone = true)
    | cons answer rest => exact h answer List.mem_cons_self
  | cons first before ih =>
    refine ih (k := (cloud.delete first k).2) fun answer hanswer => h answer ?_
    obtain ⟨list, delete⟩ := k
    cases delete with
    | nil => exact hanswer
    | cons used rest => exact List.mem_cons_of_mem _ hanswer

namespace Session

variable {s : Session κ}

/-- The session after an accepted deletion of an instance. -/
def afterDeletion (c : Cloud κ) (key : InstanceKey) (i : Instance) (call : DeleteCall)
    (event : MachineEvent) (log : List Notice) (s : Session κ) : Session κ :=
  { s.withRecords (s.records.put .machine (EntityKey.text key)
      (Entity.stored { i with deletionTime := some s.clock })) with
    cloud := (c.delete call s.cloud).2
    calls := s.calls ++ [.delete call]
    events := s.events ++ [(event, i.hostname)]
    log }

theorem serve_setDeletionTime (hm : s.InMemory) {key : InstanceKey} {i : Instance}
    (hread : s.records.read Instance key = .ok (some i)) (halive : i.deletionTime = none)
    (hkey : i.key = key) (time : Timestamp) :
    s.serve c (setDeletionTime key time) =
      (.ok .updated, s.withRecords (s.records.put .machine (EntityKey.text key)
        (Entity.stored { i with deletionTime := some time }))) := by
  have hrun := Journal.run_session (c := c) (t := .deletePending key) (setDeletionTime key time)
    { session := s }
  rw [setDeletionTime_run (j := { session := s }) hm hread halive hkey] at hrun
  exact hrun

/-- An instance that is alive is deleted by a call that the cloud accepts. -/
theorem serve_deleteInstance (hm : s.InMemory) {revision : Revision} {manager : Manager}
    {i : Instance} {call : DeleteCall} {event : MachineEvent}
    (hread : s.records.read Instance i.key = .ok (some i)) (halive : i.deletionTime = none)
    (hcall : deleteCall? revision manager i = some call)
    (hanswer : (DeletionAnswer.of (c.delete call s.cloud).1).event? = some event) :
    ∃ log, s.serve c (deleteInstance revision manager i) =
      (.ok (), s.afterDeletion c i.key i call event log) := by
  let called : Session κ :=
    { s with cloud := (c.delete call s.cloud).2, calls := s.calls ++ [.delete call] }
  have hset := serve_setDeletionTime (c := c) (s := called) hm hread halive rfl s.clock
  unfold serve at hset
  have hreport (notice : Notice) :
      (do
        let _ ← setDeletionTime i.key s.clock
        Service.note notice
        Service.send event i.hostname : Service Unit).run (perform c) called =
      (.ok (), s.afterDeletion c i.key i call event
        (s.log ++ [notice] ++ [.machineEvent event i.hostname])) := by
    rw [Service.run_bind, hset]
    rfl
  have hanswered : (perform c (.deleteInstances call) (perform c .now s).2).1 =
      (c.delete call s.cloud).1 := rfl
  unfold deleteInstance serve
  rw [halive, hcall]
  simp only [Option.isSome_none, Bool.false_eq_true, if_false]
  rw [request_bind, run_ask, request_bind, run_ask]
  cases hof : DeletionAnswer.of (c.delete call s.cloud).1 with
  | accepted =>
    rw [hof] at hanswer
    cases hanswer
    simp only [hanswered, hof]
    exact ⟨_, hreport _⟩
  | gone =>
    rw [hof] at hanswer
    cases hanswer
    simp only [hanswered, hof]
    exact ⟨_, hreport _⟩
  | refused operation =>
    rw [hof] at hanswer
    cases hanswer
  | failed e =>
    rw [hof] at hanswer
    cases hanswer

/-! ## What a deletion does -/

/-- What a deletion makes of a session: it deletes its instance if it is due, and else it only
writes to the log. -/
inductive Attempted (c : Cloud κ) (x : DeletionRun) (s : Session κ) : Session κ → Prop
  | idle (log : List Notice) (idle : ∀ call, ¬ x.Due s.records call) :
      Attempted c x s { s with log }
  | deleted {i : Instance} {call : DeleteCall} (event : MachineEvent) (log : List Notice)
      (due : x.Due s.records call) (found : s.records.read Instance x.key = .ok (some i)) :
      Attempted c x s (s.afterDeletion c x.key i call event log)

/-- A service ends well and makes of a session what a deletion does. -/
def Attempts (c : Cloud κ) (x : DeletionRun) (s : Session κ) (service : Service Unit) : Prop :=
  ∃ s', s.serve c service = (.ok (), s') ∧ Attempted c x s s'

namespace Attempts

variable {x : DeletionRun}

/-- Where nothing is due, nothing is done. -/
theorem done (hidle : ∀ call, ¬ x.Due s.records call) : Attempts c x s (.done ()) :=
  ⟨s, rfl, .idle s.log hidle⟩

/-- Where nothing is due, it is only logged why. -/
theorem note (hidle : ∀ call, ¬ x.Due s.records call) (n : Notice) :
    Attempts c x s (Service.note n) :=
  ⟨s.note n, rfl, .idle _ hidle⟩

theorem within {service : Service Unit} (h : Attempts c x s service) (context : Context) :
    Attempts c x s (service.within context) := by
  obtain ⟨s', hserve, hattempted⟩ := h
  refine ⟨s', ?_, hattempted⟩
  unfold serve at *
  rw [Service.run_within, hserve]
  rfl

theorem lookup {ρ k : Type} [Entity ρ k] (hholds : s.records.Holds ρ) {key : k}
    {next : Option ρ → Service Unit}
    (h : ∀ found, s.records.read ρ key = .ok found → Attempts c x s (next found)) :
    Attempts c x s (Service.lookup ρ key >>= next) := by
  obtain ⟨found, hfound⟩ := hholds.readable key
  unfold Attempts
  rw [serve_lookup_bind, hfound]
  exact h found hfound

/-- An instance is alive, or nothing is due. -/
theorem alive (hsound : s.records.Sound) {i : Instance}
    (found : s.records.read Instance x.key = .ok (some i)) {rest : Service Unit}
    (h : i.deletionTime = none → Attempts c x s rest) :
    Attempts c x s (if i.deletionTime.isSome then .done () else rest) := by
  cases hdeleted : i.deletionTime with
  | none => exact h hdeleted
  | some time =>
    refine .done fun call hdue => ?_
    obtain ⟨alive, -⟩ := (DeletionRun.due_iff hsound.managers found call).1 hdue
    rw [hdeleted] at alive
    cases alive

/-- An instance has a URL, or nothing is due. -/
theorem located (hsound : s.records.Sound) {i : Instance}
    (found : s.records.read Instance x.key = .ok (some i)) {n : Notice} {rest : Service Unit}
    (h : ∀ url, i.url? = some url → Attempts c x s rest) :
    Attempts c x s (if i.url?.isNone then Service.note n else rest) := by
  cases hurl : i.url? with
  | some url => exact h url hurl
  | none =>
    refine .note (fun call hdue => ?_) n
    obtain ⟨-, _, _, _, url, -, -, -, -, hurl', -⟩ :=
      (DeletionRun.due_iff hsound.managers found call).1 hdue
    rw [hurl] at hurl'
    cases hurl'

/-- The ancestors of an instance are found, or nothing is due. -/
theorem ancestors (hsound : s.records.Sound) {i : Instance}
    (found : s.records.read Instance x.key = .ok (some i))
    {k : Option (Manager × Revision) → Service Unit} (hnone : k none = .done ())
    (hsome : ∀ manager revision project,
      s.records.read Manager i.instanceGroupManager = .ok (some manager) →
      s.records.read Revision manager.key.parent = .ok (some revision) →
      revision.project? = some project → Attempts c x s (k (some (manager, revision)))) :
    Attempts c x s (i.ancestors >>= k) := by
  have hdue := DeletionRun.due_iff hsound.managers found
  have hnoted (n : Notice) (hidle : ∀ call, ¬ x.Due s.records call) :
      Attempts c x s (Service.note n >>= fun _ => k none) := by
    rw [hnone]
    exact .note hidle n
  simp only [Instance.ancestors, Service.bind_assoc]
  refine .lookup hsound.managers fun manager hmanager => ?_
  cases manager with
  | none =>
    refine hnoted _ fun call h => ?_
    obtain ⟨-, manager, _, _, _, hmanager', -⟩ := (hdue call).1 h
    rw [hmanager] at hmanager'
    cases hmanager'
  | some manager =>
    simp only [Service.bind_assoc]
    refine .lookup hsound.revisions fun revision hrevision => ?_
    cases revision with
    | none =>
      refine hnoted _ fun call h => ?_
      obtain ⟨-, manager', revision, _, _, hmanager', hrevision', -⟩ := (hdue call).1 h
      obtain rfl : manager = manager' := MemoryStore.read_unique hmanager hmanager'
      rw [hrevision] at hrevision'
      cases hrevision'
    | some revision =>
      simp only
      cases hproject : revision.project? with
      | none =>
        refine hnoted _ fun call h => ?_
        obtain ⟨-, manager', revision', project, _, hmanager', hrevision', -, hproject', -⟩ :=
          (hdue call).1 h
        obtain rfl : manager = manager' := MemoryStore.read_unique hmanager hmanager'
        obtain rfl : revision = revision' := MemoryStore.read_unique hrevision hrevision'
        rw [hproject] at hproject'
        cases hproject'
      | some project => exact hsome manager revision project hmanager hrevision hproject

/-- An instance that is alive and has its URL, its ancestors and its reason is deleted. -/
theorem deleteInstance (haccepts : c.AcceptsDeletions s.cloud) (hm : s.InMemory)
    (hsound : s.records.Sound) {i : Instance} {manager : Manager} {revision : Revision}
    {project url : String} (found : s.records.read Instance x.key = .ok (some i))
    (alive : i.deletionTime = none)
    (hmanager : s.records.read Manager i.instanceGroupManager = .ok (some manager))
    (hrevision : s.records.read Revision manager.key.parent = .ok (some revision))
    (reason : x.Reason s.records i revision) (hproject : revision.project? = some project)
    (hurl : i.url? = some url) :
    Attempts c x s (FleetReconciler.deleteInstance revision manager i) := by
  have hkey : i.key = x.key := hsound.instances.key_eq found
  let call : DeleteCall :=
    { project, group := manager.key.groupName, zone := manager.key.zone.text, urls := [url] }
  have hcall : deleteCall? revision manager i = some call := by
    rw [deleteCall?, hproject, hurl]
    rfl
  obtain ⟨event, hanswer⟩ := (haccepts [] call).event?
  obtain ⟨log, hserve⟩ := serve_deleteInstance (c := c) hm (hkey ▸ found) alive hcall hanswer
  have hdue : x.Due s.records call := (DeletionRun.due_iff hsound.managers found call).2
    ⟨alive, manager, revision, project, url, hmanager, hrevision, reason, hproject, hurl, rfl⟩
  rw [hkey] at hserve
  exact ⟨_, hserve, .deleted event log hdue found⟩

theorem pending (haccepts : c.AcceptsDeletions s.cloud) (hm : s.InMemory)
    (hsound : s.records.Sound) (key : InstanceKey) :
    Attempts c (.pending key) s (deletePending key) := by
  unfold deletePending
  refine .lookup hsound.instances fun found hfound => ?_
  cases found with
  | none => exact .done (DeletionRun.not_due_of_missing (x := .pending key) hfound)
  | some i =>
    refine .alive (x := .pending key) hsound hfound fun halive => ?_
    cases hmarked : i.pendingDeletion with
    | false =>
      refine .note (fun call hdue => ?_) _
      obtain ⟨-, _, _, _, _, -, -, reason, -⟩ :=
        (DeletionRun.due_iff (x := .pending key) hsound.managers hfound call).1 hdue
      have reason : i.pendingDeletion = true := reason
      rw [hmarked] at reason
      cases reason
    | true =>
      refine .located (x := .pending key) hsound hfound fun url hurl => ?_
      refine .ancestors (x := .pending key) hsound hfound rfl
        fun manager revision project hmanager hrevision hproject => ?_
      exact .deleteInstance haccepts hm hsound hfound halive hmanager hrevision hmarked hproject hurl

theorem drained (haccepts : c.AcceptsDeletions s.cloud) (hm : s.InMemory)
    (hsound : s.records.Sound) (key : InstanceKey) :
    Attempts c (.drained key) s (deleteDrained key) := by
  unfold deleteDrained
  refine .lookup hsound.instances fun found hfound => ?_
  cases found with
  | none => exact .note (DeletionRun.not_due_of_missing (x := .drained key) hfound) _
  | some i =>
    have hdue := DeletionRun.due_iff (x := .drained key) hsound.managers hfound
    refine .alive (x := .drained key) hsound hfound fun halive => ?_
    cases hcataloged : i.cataloged with
    | true =>
      refine .note (fun call h => ?_) _
      obtain ⟨-, _, _, _, _, -, -, ⟨hout, -⟩, -⟩ := (hdue call).1 h
      rw [hcataloged] at hout
      cases hout
    | false =>
      refine .located (x := .drained key) hsound hfound fun url hurl => ?_
      refine .ancestors (x := .drained key) hsound hfound rfl
        fun manager revision project hmanager hrevision hproject => ?_
      have hreason : (DeletionRun.drained key).Reason s.records i revision ↔ _ :=
        DeletionRun.reason_drained_iff hsound hmanager hrevision
      -- without a template that drains the group there is no reason
      have hidle (hnot : ¬ (DeletionRun.drained key).Reason s.records i revision)
          (call : DeleteCall) : ¬ (DeletionRun.drained key).Due s.records call := by
        intro h
        obtain ⟨-, manager', revision', _, _, hmanager', hrevision', reason, -⟩ := (hdue call).1 h
        obtain rfl : manager = manager' := MemoryStore.read_unique hmanager hmanager'
        obtain rfl : revision = revision' := MemoryStore.read_unique hrevision hrevision'
        exact hnot reason
      refine .lookup hsound.templates fun template htemplate => ?_
      cases template with
      | none =>
        refine .note (hidle fun reason => ?_) _
        obtain ⟨-, template, htemplate', -⟩ := hreason.1 reason
        rw [htemplate] at htemplate'
        cases htemplate'
      | some template =>
        simp only
        split
        · rename_i hdrained
          have reason := hreason.2 ⟨hcataloged, template, htemplate, hdrained⟩
          exact .deleteInstance haccepts hm hsound hfound halive hmanager hrevision reason hproject
            hurl
        · rename_i hdrained
          refine .note (hidle fun reason => ?_) _
          obtain ⟨-, template', htemplate', hdrained'⟩ := hreason.1 reason
          obtain rfl : template = template' := MemoryStore.read_unique htemplate htemplate'
          exact hdrained hdrained'

end Attempts

/-- **The task of a deletion ends well, and deletes its instance just if it is due.** -/
theorem attempts_task (settings : DiscoverySettings) (haccepts : c.AcceptsDeletions s.cloud)
    (hm : s.InMemory) (hsound : s.records.Sound) (x : DeletionRun) :
    Attempts c x s (x.task.execute settings) := by
  cases x with
  | pending key => exact (Attempts.pending haccepts hm hsound key).within _
  | drained key => exact (Attempts.drained haccepts hm hsound key).within _

end Session

end Served

end FleetReconciler
