import FleetReconciler.Proofs.Journal
import FleetReconciler.Proofs.DeletionRuns

/-!
# Deletions one at a time

A drain carries out deletions one after another, and again those that failed. Nothing comes between
the check of an instance, the call and the recording, so the first call that is accepted is the last
one for its instance.

* `DeletionRun.Eligible` — when an instance may be deleted, and by which call;
* `Done`, `DeletionRun.ran` — **what one deletion does** when it runs alone;
* `Course` — what all deletions of an instance have done;
* `Orderly` — what every deletion keeps;
* `drain_deletes_once` — **one accepted call, one recording and one event an instance**.
-/

namespace FleetReconciler

/-! ## When an instance may be deleted -/

namespace DeletionRun

/-- The task that runs it. -/
def task : DeletionRun → Task
  | pending key => .deletePending key
  | drained key => .deleteDrained key

/-- Why an instance may go: it is marked, or it is out of the catalog and its group is drained by
its revision or its template. -/
def Reason (s : MemoryStore) (i : Instance) (revision : Revision) : DeletionRun → Prop
  | pending _ => i.pendingDeletion = true
  | drained _ => i.cataloged = false ∧ ∃ template,
      s.read Template i.instanceGroupManager.parent.parent = .ok (some template) ∧
        (i.instanceGroupManager ∈ revision.drained ∨
          i.instanceGroupManager.parent ∈ template.drained)

/-- The instance is there and not deleted, there is a reason for its deletion, and the call names
the project of its revision, its group and its URL. -/
structure Eligible (x : DeletionRun) (s : MemoryStore) (i : Instance) (call : DeleteCall) :
    Prop where
  found : s.read Instance x.key = .ok (some i)
  alive : i.deletionTime = none
  call : ∃ revision project url,
    s.read Revision i.instanceGroupManager.parent = .ok (some revision) ∧
    x.Reason s i revision ∧ revision.project = some project ∧ project ≠ "" ∧
    i.url = some url ∧ url ≠ "" ∧
    call = {
      project
      group := i.instanceGroupManager.groupName
      zone := i.instanceGroupManager.zone.text
      urls := [url] }

end DeletionRun

theorem Text.nonEmpty?_eq_some {s : Option String} {t : String} :
    nonEmpty? s = some t ↔ s = some t ∧ t ≠ "" := by
  simp [nonEmpty?, Option.filter_eq_some_iff]

/-- A call that deletes an instance names what its records say. -/
theorem deleteCall?_eq_some {revision : Revision} {manager : Manager} {i : Instance}
    {call : DeleteCall} (h : deleteCall? revision manager i = some call) :
    ∃ project url, revision.project = some project ∧ project ≠ "" ∧ i.url = some url ∧ url ≠ "" ∧
      call = { project, group := manager.key.groupName, zone := manager.key.zone.text,
               urls := [url] } := by
  unfold deleteCall? at h
  obtain ⟨project, hproject, h⟩ := Option.bind_eq_some_iff.1 h
  obtain ⟨url, hurl, h⟩ := Option.bind_eq_some_iff.1 h
  obtain ⟨hproject, hproject'⟩ := Text.nonEmpty?_eq_some.1 hproject
  obtain ⟨hurl, hurl'⟩ := Text.nonEmpty?_eq_some.1 hurl
  cases h
  exact ⟨project, url, hproject, hproject', hurl, hurl', rfl⟩

/-! ## What one deletion does -/

/-- What a deletion that runs alone does on a store, and the store that it leaves: nothing, a call
that is turned down, or a call that is accepted with its recording and its event. -/
inductive Done (x : DeletionRun) (s : MemoryStore) : List Exchange → MemoryStore → Prop
  | nothing : Done x s [] s
  | refused {i : Instance} {call : DeleteCall} {reply : Except ComputeError Operation}
      (eligible : x.Eligible s i call) (answer : (DeletionAnswer.of reply).event? = none) :
      Done x s [called s call reply] s
  | accepted {i : Instance} {call : DeleteCall} {reply : Except ComputeError Operation}
      {event : MachineEvent} {s' : MemoryStore} (version : Nat) (time : Timestamp)
      (eligible : x.Eligible s i call) (answer : (DeletionAnswer.of reply).event? = some event)
      (after : s' = s.put .machine (EntityKey.text x.key)
        (Entity.stored { i with deletionTime := some time })) :
      Done x s [called s call reply,
        Service.committed x.key s version { i with deletionTime := some time },
        ⟨s', .send event i.hostname, ()⟩] s'

/-- A deletion has done something to a journal. -/
def DeletionRun.Ran {κ : Type} (x : DeletionRun) (j j' : Journal κ) : Prop :=
  ∃ done, Done x j.records done j'.records ∧ j'.entries = j.entries ++ done.map (Entry.mk x.task)

section Alone

variable {κ : Type} {c : Cloud κ} {x : DeletionRun} {j j' : Journal κ}

theorem Journal.Unmoved.ran (h : Journal.Unmoved j j') (x : DeletionRun) : x.Ran j j' := by
  refine ⟨[], ?_, by simp [h.entries]⟩
  rw [h.records]
  exact .nothing

theorem DeletionRun.Ran.after {j₁ : Journal κ} (h : x.Ran j₁ j') (h₁ : Journal.Unmoved j j₁) :
    x.Ran j j' := by
  obtain ⟨done, hdone, hentries⟩ := h
  rw [h₁.records] at hdone
  rw [h₁.entries] at hentries
  exact ⟨done, hdone, hentries⟩

theorem DeletionRun.Ran.before {j₁ : Journal κ} (h : x.Ran j j₁) (h₁ : Journal.Unmoved j₁ j') :
    x.Ran j j' := by
  obtain ⟨done, hdone, hentries⟩ := h
  rw [← h₁.records] at hdone
  rw [← h₁.entries] at hentries
  exact ⟨done, hdone, hentries⟩

/-- Alone, the time of a record that has none is recorded. -/
theorem setDeletionTime_run (hm : j.session.InMemory) {t : Task} {key : InstanceKey} {i : Instance}
    (hread : j.records.read Instance key = .ok (some i)) (halive : i.deletionTime = none)
    (hkey : i.key = key) (time : Timestamp) :
    (setDeletionTime key time).run (Journal.serve c t) j =
      (.ok .updated, j.write t key { i with deletionTime := some time }) := by
  have hdecision : ∃ version, Service.attempt key (Change.mutation (Instance.delete? time))
      (j.records.find? (EntityKey.kind InstanceKey) (EntityKey.text key)) =
        .write version { i with deletionTime := some time } (.updated, some i) := by
    obtain ⟨version, hdecode⟩ := Service.read_eq_ok.1 hread
    refine ⟨version, Service.attempt_eq_write.2 ⟨some i, hdecode, ?_, ?_, by rw [← hkey]; rfl⟩⟩
    · simp [Change.mutation, Instance.delete?, halive]
    · intro heq
      have htime := congrArg Instance.deletionTime (Option.some.inj heq)
      rw [halive] at htime
      cases htime
  obtain ⟨version, hdecision⟩ := hdecision
  unfold setDeletionTime Service.change
  simp only [Service.run_bind, Service.run_within, Journal.run_transact key _ hm, hdecision]
  rfl

/-- After an accepted call the time is recorded and the event is sent. -/
theorem report_ran {j₁ : Journal κ} {i : Instance} {call : DeleteCall}
    {reply : Except ComputeError Operation} {event : MachineEvent} (hm : j₁.session.InMemory)
    (hrecords : j₁.records = j.records)
    (hentries : j₁.entries = j.entries ++ [⟨x.task, called j.records call reply⟩])
    (eligible : x.Eligible j.records i call)
    (answer : (DeletionAnswer.of reply).event? = some event) (hkey : i.key = x.key)
    (time : Timestamp) (notice : Notice) :
    x.Ran j ((do
      let _ ← setDeletionTime i.key time
      Service.note notice
      Service.send event i.hostname : Service Unit).run (Journal.serve c x.task) j₁).2 := by
  have hread : j₁.records.read Instance x.key = .ok (some i) := hrecords ▸ eligible.found
  let written := { i with deletionTime := some time }
  have hwritten : (j₁.write x.task x.key written).records =
      j.records.put .machine (EntityKey.text x.key) (Entity.stored written) := by
    rw [Journal.records_write, hrecords]
    rfl
  rw [hkey, Service.run_bind, setDeletionTime_run hm hread eligible.alive hkey]
  simp only [Service.run_bind, Journal.run_note, Journal.run_send]
  refine ⟨_, .accepted (j₁.records.version .machine (EntityKey.text x.key)) time eligible answer
    hwritten, ?_⟩
  simp only [Journal.note, Journal.write, hentries, hrecords, List.append_assoc]
  rfl

theorem deleteInstance_ran {revision : Revision} {manager : Manager} {i : Instance}
    (hm : j.session.InMemory) (hkey : i.key = x.key)
    (eligible : i.deletionTime = none → ∀ call, deleteCall? revision manager i = some call →
      x.Eligible j.records i call) :
    x.Ran j ((deleteInstance revision manager i).run (Journal.serve c x.task) j).2 := by
  unfold deleteInstance
  split
  · exact Journal.Unmoved.ran ⟨rfl, rfl⟩ x
  · rename_i halive
    have halive : i.deletionTime = none := by simpa using halive
    cases hcall : deleteCall? revision manager i with
    | none => exact (Journal.unmoved_note _ j).ran x
    | some call =>
      have eligible := eligible halive call hcall
      simp only
      rw [Service.request_bind, Service.run_ask, Journal.serve_now, Service.request_bind,
        Service.run_ask]
      have hm₁ : (j.serve c x.task (.deleteInstances call)).2.session.InMemory :=
        hm.perform c (.deleteInstances call)
      have hrecords : (j.serve c x.task (.deleteInstances call)).2.records = j.records := rfl
      have hentries : (j.serve c x.task (.deleteInstances call)).2.entries =
          j.entries ++
            [⟨x.task, called j.records call (j.serve c x.task (.deleteInstances call)).1⟩] := rfl
      generalize (j.serve c x.task (.deleteInstances call)).1 = reply at hentries ⊢
      generalize (j.serve c x.task (.deleteInstances call)).2 = j₁ at hm₁ hrecords hentries ⊢
      have hrefused : (DeletionAnswer.of reply).event? = none → x.Ran j j₁ := by
        intro hanswer
        refine ⟨[called j.records call reply], ?_, hentries⟩
        rw [hrecords]
        exact .refused eligible hanswer
      cases hanswer : DeletionAnswer.of reply with
      | accepted => exact report_ran hm₁ hrecords hentries eligible (by rw [hanswer]; rfl) hkey _ _
      | gone => exact report_ran hm₁ hrecords hentries eligible (by rw [hanswer]; rfl) hkey _ _
      | refused operation =>
        exact (hrefused (by rw [hanswer]; rfl)).before (Journal.unmoved_note _ j₁)
      | failed e => exact hrefused (by rw [hanswer]; rfl)

/-- A service that starts with a look-up and ends well has read a record. -/
theorem lookup_run_ok {ρ k α : Type} [Entity ρ k] {key : k} {next : Option ρ → Service α} {t : Task}
    {a : α} (h : ((Service.lookup ρ key >>= next).run (Journal.serve c t) j).1 = .ok a) :
    ∃ found, j.records.read ρ key = .ok found ∧
      ((next found).run (Journal.serve c t) j).1 = .ok a := by
  rw [Service.run_bind, Journal.run_lookup] at h
  cases hread : j.records.read ρ key with
  | error f =>
    rw [hread] at h
    cases h
  | ok found =>
    rw [hread] at h
    exact ⟨found, rfl, h⟩

theorem quiet_ancestors (i : Instance) : i.ancestors.Quiet := by
  unfold Instance.ancestors
  refine (Service.quiet_lookup _).bind fun manager => ?_
  cases manager with
  | none => exact (Service.quiet_note _).bind fun _ => trivial
  | some manager =>
    refine (Service.quiet_lookup _).bind fun revision => ?_
    cases revision with
    | none => exact (Service.quiet_note _).bind fun _ => trivial
    | some revision =>
      simp only
      split
      · exact (Service.quiet_note _).bind fun _ => trivial
      · trivial

/-- The ancestors that are found are those that the records name. -/
theorem ancestors_run {t : Task} (i : Instance) (manager : Manager) (revision : Revision)
    (h : (i.ancestors.run (Journal.serve c t) j).1 = .ok (some (manager, revision))) :
    j.records.read Manager i.instanceGroupManager = .ok (some manager) ∧
      j.records.read Revision manager.key.parent = .ok (some revision) := by
  unfold Instance.ancestors at h
  obtain ⟨found, hmanager, h⟩ := lookup_run_ok h
  cases found with
  | none => cases h
  | some m =>
    obtain ⟨found, hrevision, h⟩ := lookup_run_ok h
    cases found with
    | none => cases h
    | some r =>
      simp only at h
      split at h
      · cases h
      · cases h
        exact ⟨hmanager, hrevision⟩

/-- What a deletion does with the ancestors of its instance. -/
theorem ancestors_ran {i : Instance} {k : Option (Manager × Revision) → Service Unit}
    (hm : j.session.InMemory) (hnone : k none = .done ())
    (hsome : ∀ manager revision (j₁ : Journal κ), j₁.session.InMemory → j₁.records = j.records →
      j.records.read Manager i.instanceGroupManager = .ok (some manager) →
      j.records.read Revision manager.key.parent = .ok (some revision) →
      x.Ran j₁ ((k (some (manager, revision))).run (Journal.serve c x.task) j₁).2) :
    x.Ran j ((i.ancestors >>= k).run (Journal.serve c x.task) j).2 := by
  have hunmoved := Journal.unmoved_run (c := c) (t := x.task) (quiet_ancestors i) j
  have hm₁ := Journal.run_inMemory (c := c) (t := x.task) i.ancestors hm
  have hread := ancestors_run (c := c) (t := x.task) (j := j) i
  rw [Service.run_bind]
  generalize i.ancestors.run (Journal.serve c x.task) j = p at hunmoved hm₁ hread ⊢
  obtain ⟨result, j₁⟩ := p
  cases result with
  | error f => exact hunmoved.ran x
  | ok found =>
    cases found with
    | none =>
      simp only [hnone]
      exact hunmoved.ran x
    | some ancestors =>
      obtain ⟨manager, revision⟩ := ancestors
      obtain ⟨hmanager, hrevision⟩ := hread manager revision rfl
      have hran := hsome manager revision j₁ hm₁ hunmoved.records hmanager hrevision
      exact hran.after hunmoved

/-- An instance is deleted for its reason by the call that names what its records say. -/
theorem eligible_of_ancestors {i : Instance} {manager : Manager} {revision : Revision}
    {call : DeleteCall} (hsound : j.records.Sound)
    (found : j.records.read Instance x.key = .ok (some i)) (alive : i.deletionTime = none)
    (hmanager : j.records.read Manager i.instanceGroupManager = .ok (some manager))
    (hrevision : j.records.read Revision manager.key.parent = .ok (some revision))
    (reason : x.Reason j.records i revision)
    (hcall : deleteCall? revision manager i = some call) : x.Eligible j.records i call := by
  have hkey : manager.key = i.instanceGroupManager := hsound.managers.key_eq hmanager
  obtain ⟨project, url, hproject, hproject', hurl, hurl', heq⟩ := deleteCall?_eq_some hcall
  rw [hkey] at hrevision heq
  exact ⟨found, alive, revision, project, url, hrevision, reason, hproject, hproject', hurl, hurl',
    heq⟩

/-- What a deletion does with a record that it looks up. -/
theorem lookup_ran {ρ k : Type} [Entity ρ k] {key : k} {next : Option ρ → Service Unit}
    (h : ∀ found, j.records.read ρ key = .ok found →
      x.Ran j ((next found).run (Journal.serve c x.task) j).2) :
    x.Ran j ((Service.lookup ρ key >>= next).run (Journal.serve c x.task) j).2 := by
  rw [Service.run_bind, Journal.run_lookup]
  cases hread : j.records.read ρ key with
  | error f => exact Journal.Unmoved.ran ⟨rfl, rfl⟩ x
  | ok found => exact h found hread

/-- An instance whose manager and revision are there may go for its group just if it is out of the
catalog and the manager is drained. -/
theorem DeletionRun.reason_drained_iff {s : MemoryStore} {key : InstanceKey} {i : Instance}
    {manager : Manager} {revision : Revision} (hsound : s.Sound)
    (hmanager : s.read Manager i.instanceGroupManager = .ok (some manager))
    (hrevision : s.read Revision manager.key.parent = .ok (some revision)) :
    (DeletionRun.drained key).Reason s i revision ↔ i.cataloged = false ∧ ∃ template,
      s.read Template revision.key.parent = .ok (some template) ∧
        isDrained manager.key revision template = true := by
  have hmanagerKey : manager.key = i.instanceGroupManager := hsound.managers.key_eq hmanager
  have hrevisionKey : revision.key = manager.key.parent := hsound.revisions.key_eq hrevision
  simp only [Reason, isDrained, hrevisionKey, hmanagerKey, decide_eq_true_eq]

theorem deletePending_ran (key : InstanceKey) (hm : j.session.InMemory)
    (hsound : j.records.Sound) :
    DeletionRun.Ran (.pending key) j
      ((deletePending key).run (Journal.serve c (.deletePending key)) j).2 := by
  have hidle : ∀ {j' : Journal κ}, Journal.Unmoved j j' → DeletionRun.Ran (.pending key) j j' :=
    fun h => h.ran _
  unfold deletePending
  refine lookup_ran fun found hfound => ?_
  cases found with
  | none => exact hidle ⟨rfl, rfl⟩
  | some i =>
    simp only
    split
    · exact hidle ⟨rfl, rfl⟩
    · split
      · exact hidle (Journal.unmoved_note _ j)
      · split
        · exact hidle (Journal.unmoved_note _ j)
        · rename_i hpending hurl
          have hkey : i.key = key := hsound.instances.key_eq hfound
          have hpending : i.pendingDeletion = true := by simpa using hpending
          refine ancestors_ran hm rfl fun manager revision j₁ hm₁ hrecords hmanager hrevision => ?_
          refine deleteInstance_ran hm₁ hkey fun alive call hcall => ?_
          have reason : (DeletionRun.pending key).Reason j.records i revision := hpending
          rw [hrecords]
          exact eligible_of_ancestors hsound hfound alive hmanager hrevision reason hcall

theorem deleteDrained_ran (key : InstanceKey) (hm : j.session.InMemory)
    (hsound : j.records.Sound) :
    DeletionRun.Ran (.drained key) j
      ((deleteDrained key).run (Journal.serve c (.deleteDrained key)) j).2 := by
  have hidle : ∀ {j' : Journal κ}, Journal.Unmoved j j' → DeletionRun.Ran (.drained key) j j' :=
    fun h => h.ran _
  unfold deleteDrained
  refine lookup_ran fun found hfound => ?_
  cases found with
  | none => exact hidle (Journal.unmoved_note _ j)
  | some i =>
    simp only
    split
    · exact hidle ⟨rfl, rfl⟩
    · split
      · exact hidle (Journal.unmoved_note _ j)
      · split
        · exact hidle (Journal.unmoved_note _ j)
        · rename_i hcataloged hurl
          have hkey : i.key = key := hsound.instances.key_eq hfound
          have hcataloged : i.cataloged = false := by simpa using hcataloged
          refine ancestors_ran hm rfl fun manager revision j₁ hm₁ hrecords hmanager hrevision => ?_
          refine lookup_ran fun found htemplate => ?_
          cases found with
          | none => exact (Journal.unmoved_note _ j₁).ran _
          | some template =>
            simp only
            split
            · rename_i hdrained
              refine deleteInstance_ran hm₁ hkey fun alive call hcall => ?_
              rw [hrecords] at htemplate ⊢
              have reason : (DeletionRun.drained key).Reason j.records i revision :=
                (DeletionRun.reason_drained_iff hsound hmanager hrevision).2
                  ⟨hcataloged, template, htemplate, hdrained⟩
              exact eligible_of_ancestors hsound hfound alive hmanager hrevision reason hcall
            · exact (Journal.unmoved_note _ j₁).ran _

/-- **What the task of a deletion does when it runs alone.** -/
theorem DeletionRun.ran (x : DeletionRun) (settings : DiscoverySettings) (hm : j.session.InMemory)
    (hsound : j.records.Sound) :
    x.Ran j ((x.task.execute settings).run (Journal.serve c x.task) j).2 := by
  cases x with
  | pending key =>
    unfold Task.execute
    rw [Service.run_within]
    exact deletePending_ran key hm hsound
  | drained key =>
    unfold Task.execute
    rw [Service.run_within]
    exact deleteDrained_ran key hm hsound

end Alone

/-! ## What all deletions do -/

/-- The key of the instance that a task deletes. -/
def Task.machine? : Task → Option InstanceKey
  | .fetchInstances _ => none
  | .deletePending key | .deleteDrained key => some key

theorem DeletionRun.machine?_task (x : DeletionRun) : x.task.machine? = some x.key := by
  cases x <;> rfl

namespace Journal

variable {κ : Type}

/-- The deeds of the tasks that delete an instance, in order. -/
def deeds (key : InstanceKey) (j : Journal κ) : List Exchange :=
  (j.entries.filter fun e => e.task.machine? = some key).map Entry.exchange

/-- The events of the tasks that delete an instance, in order. -/
def events (key : InstanceKey) (j : Journal κ) : List (MachineEvent × String) :=
  (j.deeds key).filterMap Exchange.event?

end Journal

/-- What all deletions of an instance have done since a store, and what has become of its record:
some calls were turned down and the record is as it was, or one more was accepted and the record has
the time of deletion. -/
inductive Course (key : InstanceKey) (start : MemoryStore) : List Exchange → MemoryStore → Prop
  | waiting {deeds : List Exchange} {s : MemoryStore} (before : ∀ e ∈ deeds, e.TurnedDown)
      (same : s.read Instance key = start.read Instance key) : Course key start deeds s
  | finished {deeds : List Exchange} {s t t' : MemoryStore} {i : Instance} {call : DeleteCall}
      {reply : Except ComputeError Operation} {event : MachineEvent} {version : Nat}
      {time : Timestamp} (before : ∀ e ∈ deeds, e.TurnedDown)
      (found : start.read Instance key = .ok (some i)) (alive : i.deletionTime = none)
      (answer : (DeletionAnswer.of reply).event? = some event)
      (recorded : s.read Instance key = .ok (some { i with deletionTime := some time })) :
      Course key start (deeds ++ [called t call reply,
        Service.committed key t version { i with deletionTime := some time },
        ⟨t', .send event i.hostname, ()⟩]) s

section Drains

variable {key : InstanceKey} {start s s' : MemoryStore} {deeds done : List Exchange}
  {x : DeletionRun}

/-- A deletion leaves the records of other instances alone. -/
theorem Done.read_of_ne (h : Done x s done s') (hkey : x.key ≠ key) :
    s'.read Instance key = s.read Instance key := by
  cases h with
  | nothing => rfl
  | refused eligible answer => rfl
  | accepted version time eligible answer after =>
    rw [after]
    exact MemoryStore.read_put_of_ne s (fun heq => hkey (EntityKey.text_injective heq.2).symm) _

/-- A store stays sound. -/
theorem Done.sound (h : Done x s done s') (hsound : s.Sound) : s'.Sound := by
  cases h with
  | nothing => exact hsound
  | refused eligible answer => exact hsound
  | @accepted i call reply event s' version time eligible answer after =>
    have hkey : i.key = x.key := hsound.instances.key_eq eligible.found
    rw [after, ← hkey]
    exact hsound.apply (.machine { i with deletionTime := some time })

theorem Course.same (h : Course key start deeds s)
    (hread : s'.read Instance key = s.read Instance key) : Course key start deeds s' := by
  cases h with
  | waiting before same => exact .waiting before (hread.trans same)
  | finished before found alive answer recorded =>
    exact .finished before found alive answer (hread.trans recorded)

/-- After an accepted call nothing is eligible any more. -/
theorem Course.next (h : Course x.key start deeds s) (hdone : Done x s done s') :
    Course x.key start (deeds ++ done) s' := by
  have hwaiting : ∀ {i call}, x.Eligible s i call →
      (∀ e ∈ deeds, e.TurnedDown) ∧ s.read Instance x.key = start.read Instance x.key := by
    intro i call eligible
    cases h with
    | waiting before same => exact ⟨before, same⟩
    | finished before found alive answer recorded =>
      have hfound := eligible.found
      rw [recorded] at hfound
      cases hfound
      cases eligible.alive
  cases hdone with
  | nothing =>
    rw [List.append_nil]
    exact h
  | @refused i call reply eligible answer =>
    obtain ⟨before, same⟩ := hwaiting eligible
    refine .waiting (fun e he => ?_) same
    rcases List.mem_append.1 he with he | he
    · exact before e he
    · exact ⟨s, call, reply, List.mem_singleton.1 he, answer⟩
  | @accepted i call reply event s' version time eligible answer after =>
    obtain ⟨before, same⟩ := hwaiting eligible
    have found : start.read Instance x.key = .ok (some i) := same ▸ eligible.found
    have recorded : s'.read Instance x.key = .ok (some { i with deletionTime := some time }) := by
      have hread := MemoryStore.read_put_self s x.key { i with deletionTime := some time }
      rw [after]
      exact hread
    exact .finished before found eligible.alive answer recorded

theorem Exchange.TurnedDown.event_eq_none {e : Exchange} (h : e.TurnedDown) : e.event? = none := by
  obtain ⟨s, call, reply, rfl, -⟩ := h
  rfl

/-- Only the call among the last three deeds of a course is accepted. -/
theorem accepted_append_iff {t t' : MemoryStore} {call : DeleteCall}
    {reply : Except ComputeError Operation} {version : Nat} {record : Instance}
    {sent event : MachineEvent} {hostname : String} (before : ∀ e ∈ deeds, e.TurnedDown) :
    Accepted (deeds ++ [called t call reply, Service.committed key t version record,
        ⟨t', .send sent hostname, ()⟩]) event ↔
      (DeletionAnswer.of reply).event? = some event := by
  constructor
  · rintro ⟨e, he, haccepts⟩
    rcases List.mem_append.1 he with he | he
    · exact ((before e he).not_accepts haccepts).elim
    · obtain ⟨s, call', reply', heq, hevent⟩ := haccepts
      unfold called at heq he
      subst heq
      rcases List.mem_cons.1 he with he | he
      · cases he
        exact hevent
      · rcases List.mem_cons.1 he with he | he
        · cases he
        · cases List.mem_singleton.1 he
  · intro hevent
    exact ⟨called t call reply, by simp, t, call, reply, rfl, hevent⟩

namespace Course

theorem accepted_of_waiting {event : MachineEvent} (before : ∀ e ∈ deeds, e.TurnedDown) :
    ¬ Accepted deeds event := by
  rintro ⟨e, he, haccepts⟩
  exact (before e he).not_accepts haccepts

/-- An accepted call is the last one. -/
theorem no_call_after_accepted (h : Course key start deeds s) :
    deeds.Pairwise fun e e' => (∃ event, e.Accepts event) → e'.call? = none := by
  have hbefore : ∀ {deeds : List Exchange}, (∀ e ∈ deeds, e.TurnedDown) → ∀ {e e' : Exchange},
      e ∈ deeds → (∃ event, e.Accepts event) → e'.call? = none := by
    rintro deeds before e e' he ⟨event, haccepts⟩
    exact ((before e he).not_accepts haccepts).elim
  cases h with
  | waiting before same =>
    exact List.pairwise_of_forall_mem_list fun e he e' _ => hbefore before he
  | finished before found alive answer recorded =>
    refine List.pairwise_append.2 ⟨?_, ?_, fun e he e' _ => hbefore before he⟩
    · exact List.pairwise_of_forall_mem_list fun e he e' _ => hbefore before he
    · simp [Exchange.call?, Service.committed]

/-- The time of deletion is recorded exactly when a call was accepted. -/
theorem deleted_iff (h : Course key start deeds s) :
    ¬ start.Deleted key ∧ s.Deleted key ↔ ∃ event, Accepted deeds event := by
  cases h with
  | waiting before same =>
    constructor
    · rintro ⟨hstart, i, hread, hi⟩
      exact (hstart ⟨i, same ▸ hread, hi⟩).elim
    · rintro ⟨event, haccepted⟩
      exact (accepted_of_waiting before haccepted).elim
  | finished before found alive answer recorded =>
    constructor
    · intro _
      exact ⟨_, (accepted_append_iff before).2 answer⟩
    · intro _
      refine ⟨?_, _, recorded, rfl⟩
      rintro ⟨i, hread, hi⟩
      rw [found] at hread
      cases hread
      rw [alive] at hi
      cases hi

/-- The one event of an instance is that of its accepted call. -/
theorem events_eq (h : Course key start deeds s) :
    ((¬ ∃ event, Accepted deeds event) → deeds.filterMap Exchange.event? = []) ∧
    ∀ event, Accepted deeds event → ∃ i : Instance, start.read Instance key = .ok (some i) ∧
      deeds.filterMap Exchange.event? = [(event, i.hostname)] := by
  have hnone : ∀ {deeds : List Exchange}, (∀ e ∈ deeds, e.TurnedDown) →
      deeds.filterMap Exchange.event? = [] := fun before =>
    List.filterMap_eq_nil_iff.2 fun e he => (before e he).event_eq_none
  cases h with
  | waiting before same =>
    exact ⟨fun _ => hnone before, fun event haccepted =>
      (accepted_of_waiting before haccepted).elim⟩
  | @finished _ _ _ _ i _ _ sent _ _ before found alive answer recorded =>
    refine ⟨fun hnot => (hnot ⟨sent, (accepted_append_iff before).2 answer⟩).elim, ?_⟩
    intro event haccepted
    have hevent := (accepted_append_iff before).1 haccepted
    obtain rfl : sent = event := Option.some.inj (answer.symm.trans hevent)
    refine ⟨i, found, ?_⟩
    rw [List.filterMap_append, hnone before]
    rfl

end Course

end Drains

/-! ## Drains -/

section Orderly

variable {κ : Type} {c : Cloud κ} {settings : DiscoverySettings} {runs : List DeletionRun}
  {session : Session κ} {start : MemoryStore} {j j' : Journal κ} {x : DeletionRun}

/-- Each call was made for one of the deletions, when it was eligible. -/
def Entry.Justified (runs : List DeletionRun) (e : Entry) : Prop :=
  ∀ call, e.exchange.call? = some call → ∃ x ∈ runs, ∃ i delete, e.task = x.task ∧
    call = .delete delete ∧ x.Eligible e.exchange.records i delete

/-- What every deletion keeps of a journal. -/
structure Orderly (runs : List DeletionRun) (session : Session κ) (start : MemoryStore)
    (j : Journal κ) : Prop where
  inMemory : j.session.InMemory
  sound : j.records.Sound
  complete : j.Complete session
  justified : ∀ e ∈ j.entries, e.Justified runs
  course : ∀ key, Course key start (j.deeds key) j.records

theorem Orderly.note (h : Orderly runs session start j) (n : Notice) :
    Orderly runs session start (j.note n) :=
  { h with complete := ⟨h.complete.calls, h.complete.events⟩ }

/-- The deeds of an instance after a deletion. -/
theorem deeds_of_entries {done : List Exchange} (key : InstanceKey)
    (h : j'.entries = j.entries ++ done.map (Entry.mk x.task)) :
    j'.deeds key = j.deeds key ++ if x.key = key then done else [] := by
  have hdone : ((done.map (Entry.mk x.task)).filter fun e => e.task.machine? = some key).map
      Entry.exchange = if x.key = key then done else [] := by
    rw [List.filter_map, List.map_map]
    by_cases hkey : x.key = key
    · simp [Function.comp_def, DeletionRun.machine?_task, hkey]
    · simp [Function.comp_def, DeletionRun.machine?_task, hkey]
  unfold Journal.deeds
  rw [h, List.filter_append, List.map_append, hdone]

/-- The call of a deletion is justified. -/
theorem Done.justified {done : List Exchange} {s s' : MemoryStore} (h : Done x s done s')
    (hx : x ∈ runs) : ∀ e ∈ done, (Entry.mk x.task e).Justified runs := by
  have hcalled : ∀ {i call reply}, x.Eligible s i call →
      (Entry.mk x.task (called s call reply)).Justified runs := by
    intro i call reply eligible call' hcall
    exact ⟨x, hx, i, call, rfl, (Option.some.inj hcall).symm, eligible⟩
  intro e he
  cases h with
  | nothing => cases he
  | refused eligible answer => exact List.mem_singleton.1 he ▸ hcalled eligible
  | accepted version time eligible answer after =>
    rcases List.mem_cons.1 he with rfl | he
    · exact hcalled eligible
    · intro call hcall
      rcases List.mem_cons.1 he with rfl | he
      · cases hcall
      · rw [List.mem_singleton.1 he] at hcall
        cases hcall

/-- A deletion keeps a journal orderly. -/
theorem Orderly.run (h : Orderly runs session start j) (hx : x ∈ runs) :
    Orderly runs session start ((x.task.execute settings).run (Journal.serve c x.task) j).2 := by
  obtain ⟨done, hdone, hentries⟩ := x.ran settings h.inMemory h.sound
  refine ⟨Journal.run_inMemory _ h.inMemory, hdone.sound h.sound, Journal.run_complete _ h.complete,
    fun e he => ?_, fun key => ?_⟩
  · rw [hentries] at he
    rcases List.mem_append.1 he with he | he
    · exact h.justified e he
    · obtain ⟨deed, hdeed, rfl⟩ := List.mem_map.1 he
      exact hdone.justified hx deed hdeed
  · rw [deeds_of_entries key hentries]
    by_cases hkey : x.key = key
    · subst hkey
      rw [if_pos rfl]
      exact (h.course x.key).next hdone
    · rw [if_neg hkey, List.append_nil]
      exact (h.course key).same (hdone.read_of_ne hkey)

end Orderly

/-- The session after deletions that waited in a queue were carried out. -/
def Session.afterDrain {κ : Type} (c : Cloud κ) (settings : DiscoverySettings)
    (dispatcher : DispatcherSettings) (runs : List DeletionRun) (start : Session κ) : Session κ :=
  let d := Dispatcher.ofTasks dispatcher start (runs.map DeletionRun.task)
  (d.drainTasks (Session.perform c) settings).1.state

/-- The journal of this drain. -/
def Journal.ofDrain {κ : Type} (c : Cloud κ) (settings : DiscoverySettings)
    (dispatcher : DispatcherSettings) (runs : List DeletionRun) (start : Session κ) : Journal κ :=
  let d := Dispatcher.ofTasks dispatcher ({ session := start } : Journal κ)
    (runs.map DeletionRun.task)
  (Journal.drainTasks c settings d).1.state

/-- The journal of a drain is orderly and has the session of the drain. -/
theorem orderly_drain {κ : Type} (c : Cloud κ) (settings : DiscoverySettings)
    (dispatcher : DispatcherSettings) (runs : List DeletionRun) {start : Session κ}
    (hm : start.InMemory) (hsound : start.records.Sound) :
    let j := Journal.ofDrain c settings dispatcher runs start
    j.session = start.afterDrain c settings dispatcher runs ∧
      Orderly runs start start.records j := by
  have hstart : Orderly runs start start.records { session := start } :=
    { inMemory := hm
      sound := hsound
      complete := ⟨by simp, by simp⟩
      justified := by simp
      course := fun key => .waiting (by simp [Journal.deeds]) rfl }
  have htasks : ∀ t ∈ runs.map DeletionRun.task, ∃ x ∈ runs, t = x.task := by
    intro t ht
    obtain ⟨x, hx, rfl⟩ := List.mem_map.1 ht
    exact ⟨x, hx, rfl⟩
  have hrun : ∀ {t} {j : Journal κ}, (∃ x ∈ runs, t = x.task) →
      Orderly runs start start.records j →
      Orderly runs start start.records ((t.execute settings).run (Journal.serve c t) j).2 := by
    rintro t j ⟨x, hx, rfl⟩ hj
    exact hj.run hx
  exact Journal.drain_keeps c settings hrun (fun hj => hj.note _) dispatcher start htasks hstart

/-- **A drain deletes an instance once.** Deletions wait in a queue, in any order and with any
repetitions; they are carried out one at a time, again where they have failed, and the cloud may
answer anything. Every call is made for a deletion whose instance is not deleted and may go, and
names what the records say. After an accepted call there is no other for its instance. The time of
deletion becomes set exactly when a call was accepted, and then there is one event, that of the
answer; otherwise there is none. -/
theorem drain_deletes_once {κ : Type} (c : Cloud κ) (settings : DiscoverySettings)
    (dispatcher : DispatcherSettings) (runs : List DeletionRun) {start : Session κ}
    (hm : start.InMemory) (hsound : start.records.Sound) :
    let final := start.afterDrain c settings dispatcher runs
    let j := Journal.ofDrain c settings dispatcher runs start
    (j.session = final ∧ j.Complete start) ∧
    (∀ e ∈ j.entries, e.Justified runs) ∧
    ∀ key,
      ((j.deeds key).Pairwise fun e e' => (∃ event, e.Accepts event) → e'.call? = none) ∧
      (¬ start.records.Deleted key ∧ final.records.Deleted key ↔
        ∃ event, Accepted (j.deeds key) event) ∧
      ((¬ ∃ event, Accepted (j.deeds key) event) → j.events key = []) ∧
      ∀ event, Accepted (j.deeds key) event → ∃ i : Instance,
        start.records.read Instance key = .ok (some i) ∧ j.events key = [(event, i.hostname)] := by
  intro final j
  obtain ⟨hsession, horderly⟩ := orderly_drain c settings dispatcher runs hm hsound
  have hrecords : final.records = j.records := congrArg Session.records hsession.symm
  refine ⟨⟨hsession, horderly.complete⟩, horderly.justified, fun key => ?_⟩
  have hcourse := horderly.course key
  have hdeleted := hcourse.deleted_iff
  rw [hrecords]
  exact ⟨hcourse.no_call_after_accepted, hdeleted, hcourse.events_eq⟩

/-- The first call of a drain fails and another deletion of the instance makes it again; the
redelivery finds the instance deleted. -/
theorem drain_deletes_once_after_failure :
    let key := Sample.machine.key
    let start := { Sample.session with cloud := { delete := [.error (.http 503 "")] } }
    let j :=
      Journal.ofDrain CloudScript.cloud {} {} [.pending key, .drained key, .pending key] start
    start.InMemory ∧ start.records.Sound ∧
      ((j.deeds key).Pairwise fun e e' => (∃ event, e.Accepts event) → e'.call? = none) ∧
      (j.deeds key).length = 4 ∧ j.events key = [(.deletionScheduled, "vm")] := by
  intro key start j
  have hm : start.InMemory := ⟨Sample.store, rfl⟩
  have hsound : start.records.Sound := Sample.sound
  have h := drain_deletes_once CloudScript.cloud {} {} [.pending key, .drained key, .pending key] hm
    hsound
  exact ⟨hm, hsound, (h.2.2 key).1, by decide +kernel⟩

end FleetReconciler
