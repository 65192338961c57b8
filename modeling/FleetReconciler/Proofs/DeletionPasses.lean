import FleetReconciler.Proofs.AcceptedDeletions
import FleetReconciler.Proofs.PromptDrains
import FleetReconciler.Proofs.StoreRuns

/-!
# The passes for deletions

The two passes queue deletions, and a drain carries them out one after another. Where the cloud
accepts every deletion this ends: an instance that was queued and has all that its deletion looks
for is deleted by one call, whichever pass has queued it, and one that lacks something is as it was.
So the next pass for marked instances queues just those that lack something.

* `MemoryStore.Lacks` — something that the deletion of a marked instance needs is missing;
* `Session.Prepared` — what the passes find;
* `Session.Cleared` — what some deletions have done; `Cleared.step`, `Cleared.foldl` — one more
  deletion, and all of them;
* `Session.Prepared.scans`, `Session.Prepared.drain` — the passes, and the drain after them;
* `deletion_passes_converge` — **what the passes and the drain leave for the next pass**.
-/

namespace FleetReconciler

open Service

/-! ## Marked instances -/

/-- An instance is marked for deletion and not deleted yet. -/
def MemoryStore.AwaitsPendingDeletion (s : MemoryStore) (key : InstanceKey) : Prop :=
  ∃ i : Instance, s.read Instance key = .ok (some i) ∧ i.awaitsPendingDeletion = true

/-- An instance has no URL, or its manager, its revision or the project of the revision is
missing. -/
def MemoryStore.Lacks (s : MemoryStore) (i : Instance) : Prop :=
  i.url? = none ∨ s.read Manager i.instanceGroupManager = .ok none ∨
    s.read Revision i.instanceGroupManager.parent = .ok none ∨
    ∃ revision, s.read Revision i.instanceGroupManager.parent = .ok (some revision) ∧
      revision.project? = none

/-- The deletion of a marked instance is due, or something that it needs is missing. -/
theorem MemoryStore.lacks_or_due {s : MemoryStore} (hsound : s.Sound) {key : InstanceKey}
    {i : Instance} (found : s.read Instance key = .ok (some i))
    (hawaits : i.awaitsPendingDeletion = true) :
    s.Lacks i ∨ ∃ call, (DeletionRun.pending key).Due s call := by
  simp only [Instance.awaitsPendingDeletion, Bool.and_eq_true, Option.isNone_iff_eq_none] at hawaits
  obtain ⟨alive, reason⟩ := hawaits
  cases hurl : i.url? with
  | none => exact .inl (.inl hurl)
  | some url =>
    obtain ⟨manager, hmanager⟩ := hsound.managers.readable i.instanceGroupManager
    cases manager with
    | none => exact .inl (.inr (.inl hmanager))
    | some manager =>
      have hkey : manager.key = i.instanceGroupManager := hsound.managers.key_eq hmanager
      obtain ⟨revision, hrevision⟩ := hsound.revisions.readable i.instanceGroupManager.parent
      cases revision with
      | none => exact .inl (.inr (.inr (.inl hrevision)))
      | some revision =>
        cases hproject : revision.project? with
        | none => exact .inl (.inr (.inr (.inr ⟨revision, hrevision, hproject⟩)))
        | some project =>
          have hdue := DeletionRun.due_iff (x := .pending key) hsound.managers found
          exact .inr ⟨_, (hdue _).2 ⟨alive, manager, revision, project, url, hmanager,
            hkey ▸ hrevision, reason, hproject, hurl, rfl⟩⟩

section Passes

variable {κ : Type} {c : Cloud κ} {s : Session κ}

namespace Session

/-- The session when the tasks of its queue have been taken. -/
def emptied (s : Session κ) : Session κ := { s with queued := [] }

/-! ## All deletions -/

/-- What the passes for deletions find: a tidy store, an empty queue that takes every task, and a
cloud that accepts every deletion. -/
structure Prepared (c : Cloud κ) (s : Session κ) : Prop extends s.Tidy where
  room : s.room = none
  queued : s.queued = []
  accepts : c.AcceptsDeletions s.cloud

theorem Attempted.prepared {x : DeletionRun} {s' : Session κ} (h : Attempted c x s s')
    (hs : s.Prepared c) : s'.Prepared c := by
  cases h with
  | idle log _ => exact ⟨⟨hs.inMemory, hs.ordered, hs.sound⟩, hs.room, hs.queued, hs.accepts⟩
  | @deleted i call event log due found =>
    have hkey : i.key = x.key := hs.sound.instances.key_eq found
    have hrecords : (s.afterDeletion c x.key i call event log).records =
        s.records.apply (AnyRecord.machine { i with deletionTime := some s.clock }).write := by
      rw [← hkey]
      exact records_withRecords _ _
    refine ⟨⟨hs.inMemory.withRecords _, ?_, ?_⟩, hs.room, hs.queued, hs.accepts.delete call⟩
    · rw [hrecords, MemoryStore.apply, MemoryStore.snapshot_put]
      exact hs.ordered.put _ _ _
    · rw [hrecords]
      exact hs.sound.apply _

/-- What some deletions have done since a session: for each instance for which one of them was due,
one call was made and the time of deletion is set. No other call was made, and no other record has
changed. -/
structure Cleared (start : Session κ) (runs : List DeletionRun)
    (due : List (InstanceKey × DeleteCall)) (s : Session κ) : Prop where
  keys : (due.map Prod.fst).Nodup
  due_iff : ∀ key call, (key, call) ∈ due ↔ ∃ x ∈ runs, x.key = key ∧ x.Due start.records call
  calls : s.calls = start.calls ++ due.map fun p => .delete p.2
  deleted : ∀ p ∈ due, ∃ (i : Instance) (time : Timestamp),
    start.records.read Instance p.1 = .ok (some i) ∧
      s.records.read Instance p.1 = .ok (some { i with deletionTime := some time })
  others : ∀ kind id, (∀ p ∈ due, ¬ (kind = .machine ∧ id = EntityKey.text p.1)) →
    s.records.find? kind id = start.records.find? kind id

namespace Cleared

variable {start s' : Session κ} {runs : List DeletionRun} {due : List (InstanceKey × DeleteCall)}
  {x : DeletionRun}

theorem sameAbove (h : start.Cleared runs due s) : start.records.SameAbove s.records where
  templates _ := MemoryStore.read_congr (h.others _ _ fun _ _ hp => by cases hp.1)
  revisions _ := MemoryStore.read_congr (h.others _ _ fun _ _ hp => by cases hp.1)
  managers _ := MemoryStore.read_congr (h.others _ _ fun _ _ hp => by cases hp.1)

/-- An instance that was not due is read as at the start. -/
theorem read_of_not_mem (h : start.Cleared runs due s) {key : InstanceKey}
    (hkey : key ∉ due.map Prod.fst) :
    s.records.read Instance key = start.records.read Instance key := by
  refine MemoryStore.read_congr (h.others _ _ fun p hp hsame => hkey ?_)
  rw [EntityKey.text_injective hsame.2]
  exact List.mem_map_of_mem hp

/-- An instance that was due is deleted, so nothing is due for it any more. -/
theorem not_due_of_mem (h : start.Cleared runs due s) (hkey : x.key ∈ due.map Prod.fst)
    (call : DeleteCall) : ¬ x.Due s.records call := by
  rintro ⟨i, manager, ⟨found, alive, -⟩, -⟩
  obtain ⟨p, hp, hpkey⟩ := List.mem_map.1 hkey
  obtain ⟨i', time, -, hread⟩ := h.deleted p hp
  rw [hpkey] at hread
  obtain rfl := MemoryStore.read_unique hread found
  cases alive

/-- For an instance that was not due so far, the same is due as at the start. -/
theorem due_iff_start (h : start.Cleared runs due s) (hkey : x.key ∉ due.map Prod.fst)
    (call : DeleteCall) : x.Due s.records call ↔ x.Due start.records call := by
  have hread := h.read_of_not_mem hkey
  exact ⟨fun hdue => hdue.of_sameAbove h.sameAbove.symm hread.symm,
    fun hdue => hdue.of_sameAbove h.sameAbove hread⟩

/-- A deletion that has only written to the log, as nothing more was due. -/
theorem idle (h : start.Cleared runs due s) (log : List Notice)
    (hidle : ∀ call, x.Due start.records call → (x.key, call) ∈ due) :
    start.Cleared (runs ++ [x]) due { s with log } := by
  refine ⟨h.keys, fun key call => ?_, h.calls, h.deleted, h.others⟩
  rw [h.due_iff]
  constructor
  · rintro ⟨y, hy, hdue⟩
    exact ⟨y, List.mem_append_left _ hy, hdue⟩
  · rintro ⟨y, hy, rfl, hdue⟩
    rcases List.mem_append.1 hy with hy | hy
    · exact ⟨y, hy, rfl, hdue⟩
    · obtain rfl := List.mem_singleton.1 hy
      exact (h.due_iff _ _).1 (hidle call hdue)

/-- The first deletion of an instance that was due. -/
theorem delete (h : start.Cleared runs due s) {i : Instance} {call : DeleteCall}
    (event : MachineEvent) (log : List Notice) (hkey : x.key ∉ due.map Prod.fst)
    (hdue : x.Due start.records call) (found : s.records.read Instance x.key = .ok (some i)) :
    start.Cleared (runs ++ [x]) (due ++ [(x.key, call)])
      (s.afterDeletion c x.key i call event log) := by
  let written : Instance := { i with deletionTime := some s.clock }
  have hrecords : (s.afterDeletion c x.key i call event log).records =
      s.records.put .machine (EntityKey.text x.key) (Entity.stored written) :=
    records_withRecords _ _
  refine ⟨?_, fun key call' => ?_, ?_, fun p hp => ?_, fun kind id hother => ?_⟩
  · rw [List.map_append, List.nodup_append]
    refine ⟨h.keys, List.nodup_singleton _, fun key hmem other hother heq => hkey ?_⟩
    obtain rfl : key = x.key := heq.trans (List.mem_singleton.1 hother)
    exact hmem
  · rw [List.mem_append, h.due_iff, List.mem_singleton, Prod.mk.injEq]
    constructor
    · rintro (⟨y, hy, hydue⟩ | ⟨rfl, rfl⟩)
      · exact ⟨y, List.mem_append_left _ hy, hydue⟩
      · exact ⟨x, List.mem_append_right _ List.mem_cons_self, rfl, hdue⟩
    · rintro ⟨y, hy, rfl, hydue⟩
      rcases List.mem_append.1 hy with hy | hy
      · exact .inl ⟨y, hy, rfl, hydue⟩
      · obtain rfl := List.mem_singleton.1 hy
        exact .inr ⟨rfl, hydue.call_eq hdue rfl⟩
  · simp [afterDeletion, h.calls]
  · rw [hrecords]
    rcases List.mem_append.1 hp with hp | hp
    · obtain ⟨i', time, hstart, hread⟩ := h.deleted p hp
      have hne : p.1 ≠ x.key := fun heq => hkey (heq ▸ List.mem_map_of_mem hp)
      refine ⟨i', time, hstart, ?_⟩
      rw [MemoryStore.read_put_of_ne _ fun hsame => hne (EntityKey.text_injective hsame.2)]
      exact hread
    · obtain rfl := List.mem_singleton.1 hp
      exact ⟨i, s.clock, (h.read_of_not_mem hkey).symm.trans found,
        MemoryStore.read_put_self s.records x.key written⟩
  · rw [hrecords, MemoryStore.find?_put,
      if_neg (hother _ (List.mem_append_right _ List.mem_cons_self))]
    exact h.others kind id fun p hp => hother p (List.mem_append_left _ hp)

/-- **One more deletion**: after the first of an instance that was due, the others do nothing. -/
theorem step (h : start.Cleared runs due s) (hattempted : Attempted c x s s') :
    ∃ due', start.Cleared (runs ++ [x]) due' s' := by
  by_cases hkey : x.key ∈ due.map Prod.fst
  · cases hattempted with
    | idle log _ =>
      refine ⟨due, h.idle log fun call hdue => ?_⟩
      -- the call that was made for the instance is the one that was due
      obtain ⟨⟨key, call'⟩, hp, rfl⟩ := List.mem_map.1 hkey
      obtain ⟨y, hy, hykey, hydue⟩ := (h.due_iff _ _).1 hp
      rw [hdue.call_eq hydue hykey.symm]
      exact hp
    | deleted event log hdue _ => exact (h.not_due_of_mem hkey _ hdue).elim
  · cases hattempted with
    | idle log hidle =>
      refine ⟨due, h.idle log fun call hdue => ?_⟩
      exact (hidle call ((h.due_iff_start hkey call).2 hdue)).elim
    | deleted event log hdue found =>
      exact ⟨_, h.delete event log hkey ((h.due_iff_start hkey _).1 hdue) found⟩

/-- A marked instance that was queued and is still not deleted lacks something. -/
theorem lacks (h : start.Cleared runs due s) (hsound : s.records.Sound) {key : InstanceKey}
    {i : Instance} (hqueued : start.records.AwaitsPendingDeletion key → .pending key ∈ runs)
    (hread : s.records.read Instance key = .ok (some i))
    (hawaits : i.awaitsPendingDeletion = true) : s.records.Lacks i := by
  have hkey : key ∉ due.map Prod.fst := by
    intro hmem
    obtain ⟨p, hp, rfl⟩ := List.mem_map.1 hmem
    obtain ⟨i', time, -, hdeleted⟩ := h.deleted p hp
    obtain rfl := MemoryStore.read_unique hdeleted hread
    simp [Instance.awaitsPendingDeletion] at hawaits
  rcases MemoryStore.lacks_or_due hsound hread hawaits with hlacks | ⟨call, hdue⟩
  · exact hlacks
  · have hstart := (h.due_iff_start (x := .pending key) hkey call).1 hdue
    have hruns := hqueued ⟨i, (h.read_of_not_mem hkey).symm.trans hread, hawaits⟩
    exact (hkey (List.mem_map_of_mem ((h.due_iff key call).2 ⟨_, hruns, rfl, hstart⟩))).elim

/-- **All deletions**, in the order of the queue. -/
theorem foldl (settings : DiscoverySettings) (more : List DeletionRun)
    (h : start.Cleared runs due s) (hs : s.Prepared c) :
    ∃ due', start.Cleared (runs ++ more) due'
      ((more.map DeletionRun.task).foldl
        (fun s t => ((t.execute settings).run (perform c) s).2) s) := by
  induction more generalizing runs due s with
  | nil => exact ⟨due, by simpa using h⟩
  | cons x more ih =>
    obtain ⟨s', hserve, hattempted⟩ := attempts_task settings hs.accepts hs.inMemory hs.sound x
    obtain ⟨due', hstep⟩ := h.step hattempted
    have hrest := ih hstep (hattempted.prepared hs)
    rw [List.append_assoc] at hrest
    unfold serve at hserve
    rw [List.map_cons, List.foldl_cons, hserve]
    exact hrest

end Cleared

/-! ## The passes -/

theorem serve_enqueueAll (hroom : s.room = none) (tasks : List Task) :
    s.serve c (enqueueAll tasks) = (.ok (), s.queueing tasks) := by
  induction tasks generalizing s with
  | nil => simp [enqueueAll, serve, queueing, Service.pure_eq_done]
  | cons t tasks ih =>
    unfold enqueueAll
    rw [serve_enqueue_bind c hroom, ih (s := s.queueing [t]) hroom]
    simp [queueing]

/-- **The pass for marked instances queues each of them once**, in the order of their ids. -/
theorem serve_schedulePendingDeletions (hroom : s.room = none)
    (hordered : s.records.snapshot.Ordered) (hinstances : s.records.Holds Instance) :
    ∃ keys : List InstanceKey,
      keys.Pairwise (fun key key' => EntityKey.text key < EntityKey.text key') ∧
      (∀ key, key ∈ keys ↔ s.records.AwaitsPendingDeletion key) ∧
      s.serve c schedulePendingDeletions =
        (.ok keys.length, (s.queueing (keys.map .deletePending)).note
          (.pendingDeletionsScheduled keys.length)) := by
  obtain ⟨instances, hrows, hmem, hascending⟩ :=
    MemoryStore.exists_records hordered hinstances
  refine ⟨(instances.filter Instance.awaitsPendingDeletion).map Instance.key, ?_, fun key => ?_, ?_⟩
  · exact List.pairwise_map.2 (hascending.filter _)
  · rw [List.mem_map]
    constructor
    · rintro ⟨i, hi, rfl⟩
      obtain ⟨hi, hawaits⟩ := List.mem_filter.1 hi
      exact ⟨i, (hmem i).1 hi, hawaits⟩
    · rintro ⟨i, hread, hawaits⟩
      obtain rfl : i.key = key := hinstances.key_eq hread
      exact ⟨i, List.mem_filter.2 ⟨(hmem i).2 hread, hawaits⟩, rfl⟩
  · unfold schedulePendingDeletions
    rw [serve_records_bind c _ hrows]
    have hqueued := serve_enqueueAll (c := c) hroom
      ((instances.filter Instance.awaitsPendingDeletion).map fun i => Task.deletePending i.key)
    unfold serve at hqueued ⊢
    rw [Service.run_bind, hqueued]
    simp
    rfl

theorem serve_scheduleDrainedDeletions (hroom : s.room = none)
    (hordered : s.records.snapshot.Ordered) (hsound : s.records.Sound) :
    ∃ (keys : List InstanceKey) (notice : Notice), s.serve c scheduleDrainedDeletions =
      (.ok keys.length, (s.queueing (keys.map .deleteDrained)).note notice) := by
  obtain ⟨templates, htemplates, -⟩ := MemoryStore.exists_records hordered hsound.templates
  obtain ⟨revisions, hrevisions, -⟩ := MemoryStore.exists_records hordered hsound.revisions
  obtain ⟨managers, hmanagers, -⟩ := MemoryStore.exists_records hordered hsound.managers
  exact ⟨_, _, serve_scan c hroom hsound.instances htemplates hrevisions hmanagers⟩

/-- Both passes succeed, one after the other; they queue deletions, first those of all marked
instances, and else only write to the log. -/
theorem Prepared.scans {start : Session κ} (h : start.Prepared c) :
    ∃ (pendingKeys drainedKeys : List InstanceKey) (log : List Notice),
      (∀ key, key ∈ pendingKeys ↔ start.records.AwaitsPendingDeletion key) ∧
      (start.serve c schedulePendingDeletions).1 = .ok pendingKeys.length ∧
      (start.serve c schedulePendingDeletions).2.serve c scheduleDrainedDeletions =
        (.ok drainedKeys.length, { start with
          queued := pendingKeys.map .deletePending ++ drainedKeys.map .deleteDrained
          log }) := by
  obtain ⟨pendingKeys, -, hmarked, hpending⟩ :=
    serve_schedulePendingDeletions (c := c) h.room h.ordered h.sound.instances
  let scanned := (start.queueing (pendingKeys.map .deletePending)).note
    (.pendingDeletionsScheduled pendingKeys.length)
  obtain ⟨drainedKeys, notice, hdrained⟩ := serve_scheduleDrainedDeletions (c := c) (s := scanned)
    h.room h.ordered h.sound
  refine ⟨pendingKeys, drainedKeys, scanned.log ++ [notice], hmarked, by rw [hpending], ?_⟩
  rw [hpending, hdrained]
  simp only [scanned, note, queueing, h.queued, List.nil_append]

/-- **The drain of some deletions**: every one of them succeeds the first time. -/
theorem Prepared.drain (hs : s.Prepared c) (settings : DiscoverySettings)
    (dispatcher : DispatcherSettings) (runs : List DeletionRun) {start : Session κ}
    (hstart : start.Cleared [] [] s) :
    let p := (Dispatcher.ofTasks dispatcher s (runs.map DeletionRun.task)).drainTasks (perform c)
      settings
    p.1.queue = [] ∧ p.2 = { succeeded := runs.length } ∧ p.1.state.Prepared c ∧
      ∃ due, start.Cleared runs due p.1.state := by
  have hserved : ∀ {t : Task} {s : Session κ}, (∃ x : DeletionRun, t = x.task) → s.Prepared c →
      ((t.execute settings).run (perform c) s).1 = .ok () ∧
        ((t.execute settings).run (perform c) s).2.Prepared c := by
    rintro t s ⟨x, rfl⟩ hs
    obtain ⟨s', hserve, hattempted⟩ := attempts_task settings hs.accepts hs.inMemory hs.sound x
    unfold serve at hserve
    rw [hserve]
    exact ⟨rfl, hattempted.prepared hs⟩
  have hdeletions : ∀ t ∈ runs.map DeletionRun.task, ∃ x : DeletionRun, t = x.task := by
    intro t ht
    obtain ⟨x, -, rfl⟩ := List.mem_map.1 ht
    exact ⟨x, rfl⟩
  obtain ⟨hqueue, hreport, hfinal, hstate⟩ :=
    Dispatcher.drainTasks_prompt hserved dispatcher hs hdeletions
  obtain ⟨due, hdue⟩ := hstart.foldl settings runs hs
  rw [← hstate] at hdue
  rw [List.length_map] at hreport
  exact ⟨hqueue, hreport, hfinal, due, hdue⟩

end Session

end Passes

/-- **What the passes for deletions and the drain leave for the next pass.** The store is tidy, the
queue empty, and the cloud accepts every deletion. Both passes succeed, and the first queues every
marked instance. Whatever the settings of the dispatcher, each queued task succeeds when it is
first delivered. An instance for which a queued deletion was due gets its time of deletion by one
call, also if both passes have queued it, and every other record is as it was. Then the pass for
marked instances queues just those that lack their URL, manager, revision or project, each once. -/
theorem deletion_passes_converge {κ : Type} (c : Cloud κ) (settings : DiscoverySettings)
    (dispatcher : DispatcherSettings) {start : Session κ} (h : start.Prepared c) :
    let pending := start.serve c schedulePendingDeletions
    let drained := pending.2.serve c scheduleDrainedDeletions
    let tasks := drained.2.queued
    let drain := (Dispatcher.ofTasks dispatcher drained.2.emptied tasks).drainTasks
      (Session.perform c) settings
    let final := drain.1.state
    let again := final.serve c schedulePendingDeletions
    ∃ (pendingKeys drainedKeys leftKeys : List InstanceKey) (due : List (InstanceKey × DeleteCall)),
      (pending.1 = .ok pendingKeys.length ∧ drained.1 = .ok drainedKeys.length ∧
        (∀ key, key ∈ pendingKeys ↔ start.records.AwaitsPendingDeletion key) ∧
        tasks = pendingKeys.map .deletePending ++ drainedKeys.map .deleteDrained) ∧
      (drain.1.queue = [] ∧
        drain.2 = { succeeded := tasks.length, redelivered := 0, dropped := 0 }) ∧
      start.Cleared (pendingKeys.map .pending ++ drainedKeys.map .drained) due final ∧
      (leftKeys.Pairwise (fun key key' => EntityKey.text key < EntityKey.text key') ∧
        (∀ key, key ∈ leftKeys ↔ ∃ i : Instance, final.records.read Instance key = .ok (some i) ∧
          i.awaitsPendingDeletion = true ∧ final.records.Lacks i) ∧
        again.1 = .ok leftKeys.length ∧ again.2.queued = leftKeys.map .deletePending) := by
  obtain ⟨pendingKeys, drainedKeys, log, hmarked, hpending, hdrained⟩ := h.scans
  intro pending drained tasks drain final again
  let runs : List DeletionRun := pendingKeys.map .pending ++ drainedKeys.map .drained
  have htasks : tasks = pendingKeys.map .deletePending ++ drainedKeys.map .deleteDrained :=
    congrArg (fun p => p.2.queued) hdrained
  have hruns : tasks = runs.map DeletionRun.task := by
    simp only [htasks, runs, List.map_append, List.map_map]
    rfl
  -- with the tasks taken out, the scans have only written to the log
  let scanned : Session κ := { start with queued := [], log }
  have hscanned : drained.2.emptied = scanned := congrArg (fun p => p.2.emptied) hdrained
  have hprepared : scanned.Prepared c :=
    ⟨⟨h.inMemory, h.ordered, h.sound⟩, h.room, rfl, h.accepts⟩
  have hstart : start.Cleared [] [] scanned :=
    ⟨.nil, by simp, (List.append_nil _).symm, by simp, fun _ _ _ => rfl⟩
  have hdrain : drain = (Dispatcher.ofTasks dispatcher scanned
      (runs.map DeletionRun.task)).drainTasks (Session.perform c) settings := by
    rw [← hscanned, ← hruns]
  obtain ⟨hqueue, hreport, hfinal, due, hcleared⟩ := hprepared.drain settings dispatcher runs hstart
  rw [← hdrain] at hqueue hreport hfinal hcleared
  obtain ⟨leftKeys, hascending, hleft, hagain⟩ := Session.serve_schedulePendingDeletions (c := c)
    hfinal.room hfinal.ordered hfinal.sound.instances
  change again = _ at hagain
  refine ⟨pendingKeys, drainedKeys, leftKeys, due, ⟨hpending, congrArg Prod.fst hdrained,
    hmarked, htasks⟩, ⟨hqueue, ?_⟩, hcleared, hascending, fun key => ?_, by rw [hagain], ?_⟩
  · rw [hreport, hruns, List.length_map]
  · rw [hleft]
    constructor
    · rintro ⟨i, hread, hawaits⟩
      refine ⟨i, hread, hawaits, hcleared.lacks hfinal.sound (fun hkey => ?_) hread hawaits⟩
      exact List.mem_append_left _ (List.mem_map_of_mem ((hmarked key).2 hkey))
    · rintro ⟨i, hread, hawaits, -⟩
      exact ⟨i, hread, hawaits⟩
  · rw [hagain]
    simp only [Session.note, Session.queueing, hfinal.queued, List.nil_append]

/-! ### A marked instance without a URL -/

namespace Sample

/-- A marked instance that has no URL. -/
def stranded : Instance := { machine with key := ⟨managerKey, managerKey.zone⟩, url := none }

/-- The store with the repeated list, and this instance in it. -/
def marked : MemoryStore := [AnyRecord.machine stranded].foldl (fun s r => s.apply r.write) listed

/-- The cloud answers the first deletion that the instance is gone. -/
def markedSession : Session CloudScript where
  backend := .memory marked
  cloud := { delete := [.error (.http goneStatus "")] }
  clock := midnight

theorem prepared : markedSession.Prepared CloudScript.cloud where
  inMemory := ⟨marked, rfl⟩
  ordered := MemoryStore.ordered_fill (s := listed) chained_listed.ordered _
  sound := MemoryStore.sound_fill (s := listed) chained_listed.sound _
  room := rfl
  queued := rfl
  accepts := CloudScript.acceptsDeletions fun answer hanswer => by
    obtain rfl := List.mem_singleton.1 hanswer
    rfl

end Sample

/-- Both passes queue one instance, and the first one another that has no URL: three tasks succeed
with one call, and the next pass queues the other instance again. -/
theorem passes_converge_for_stranded :
    let c := CloudScript.cloud
    let pending := Sample.markedSession.serve c schedulePendingDeletions
    let drained := pending.2.serve c scheduleDrainedDeletions
    let tasks := drained.2.queued
    let drain := (Dispatcher.ofTasks {} drained.2.emptied tasks).drainTasks
      (Session.perform c) {}
    let final := drain.1.state
    Sample.markedSession.Prepared c ∧
      tasks = [.deletePending Sample.machine.key, .deletePending Sample.stranded.key,
        .deleteDrained Sample.machine.key] ∧
      drain.2 = { succeeded := 3 } ∧ final.calls.length = 1 ∧
      (final.serve c schedulePendingDeletions).2.queued = [.deletePending Sample.stranded.key] := by
  intro c pending drained tasks drain final
  obtain ⟨_, _, _, _, -, ⟨-, hreport⟩, -⟩ :=
    deletion_passes_converge CloudScript.cloud {} {} Sample.prepared
  have htasks : tasks = [.deletePending Sample.machine.key, .deletePending Sample.stranded.key,
      .deleteDrained Sample.machine.key] := by decide +kernel
  have hthree : drain.2 = { succeeded := tasks.length } := hreport
  rw [htasks] at hthree
  have hfinal : final.calls.length = 1 ∧
      (final.serve c schedulePendingDeletions).2.queued = [.deletePending Sample.stranded.key] := by
    decide +kernel
  exact ⟨Sample.prepared, htasks, hthree, hfinal⟩

end FleetReconciler
