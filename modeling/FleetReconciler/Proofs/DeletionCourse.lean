import FleetReconciler.Proofs.SoundStore
import FleetReconciler.Proofs.Traces
import FleetReconciler.Deletion

/-!
# What a deletion goes through

A deletion looks up its instance and what is above it, calls the cloud, and records the time in a
transaction of its own; others may write between any two of these steps. These are the exchanges of
a deletion from its start to its end.

* `Recording`, `Recorded` — a commit that sets the time of a record that had none, and how the
  transaction that records a time ends;
* `recorded_of_yields` — **that transaction ends so**, whatever others write;
* `DeletionRun.Examines`, `DeletionRun.Calls` — what a deletion looks up before its call, and the
  call;
* `DeletionRun.Reports`, `DeletionRun.Course` — what a deletion goes through that sends its event,
  and any deletion;
* `DeletionRun.course_of_yields` — **every deletion takes such a course**.
-/

namespace FleetReconciler

/-! ## Recording the time -/

/-- The event that follows an answer. -/
def DeletionAnswer.event? : DeletionAnswer → Option MachineEvent
  | .accepted => some .deletionScheduled
  | .gone => some .deletionSucceeded
  | .refused _ | .failed _ => none

/-- Whether the time of deletion of an instance is recorded. -/
def MemoryStore.Deleted (key : InstanceKey) (s : MemoryStore) : Prop :=
  ∃ i : Instance, s.read Instance key = .ok (some i) ∧ i.deletionTime.isSome

/-- A commit that sets the time of deletion of a record that had none. -/
def Recording (key : InstanceKey) (time : Timestamp) (e : Exchange) : Prop :=
  ∃ (i : Instance) (version : Nat),
    e.records.read Instance key = .ok (some i) ∧ i.deletionTime = none ∧
      e = Service.committed key e.records version { i with deletionTime := some time }

/-- How the exchanges of the transaction that records a time end: with a recording and the save, or
with a reading that found the time set or no record. One that fails has done nothing. -/
inductive Recorded (key : InstanceKey) (time : Timestamp) :
    List Exchange → Except Failure Change → Prop
  | updated {lead : List Exchange} {e : Exchange} {t : MemoryStore} (idle : ∀ e ∈ lead, ¬ e.isDeed)
      (recording : Recording key time e) :
      Recorded key time (lead ++ [e, ⟨t, .save, .ok ()⟩]) (.ok .updated)
  | unchanged {lead : List Exchange} {overtaken : Nat} {s : MemoryStore}
      (idle : ∀ e ∈ lead, ¬ e.isDeed) (deleted : s.Deleted key) :
      Recorded key time (lead ++ [Service.reading (.transaction overtaken) key s]) (.ok .unchanged)
  | missing {lead : List Exchange} {overtaken : Nat} {s t : MemoryStore}
      (idle : ∀ e ∈ lead, ¬ e.isDeed) (absent : s.read Instance key = .ok none) :
      Recorded key time
        (lead ++ [Service.reading (.transaction overtaken) key s,
          ⟨t, .note (.instanceMissing key), ()⟩]) (.ok .missing)
  | failed {es : List Exchange} {f : Failure} (idle : ∀ e ∈ es, ¬ e.isDeed) :
      Recorded key time es (.error f)

section Recording

variable {key : InstanceKey} {time : Timestamp} {s : MemoryStore}

/-- What an attempt to record a time writes. -/
theorem recording_of_attempt {version : Nat} {record : Instance}
    {value : Change × Option Instance}
    (h : Service.attempt key (Change.mutation (Instance.delete? time))
      (s.find? .machine (EntityKey.text key)) = .write version record value) :
    Recording key time (Service.committed key s version record) ∧ value.1 = .updated := by
  obtain ⟨current, hdecode, hmutate, hchanged, -⟩ := Service.attempt_eq_write.1 h
  have hread := Service.read_eq_ok.2 ⟨_, hdecode⟩
  cases current with
  | none => cases hmutate
  | some i =>
    simp only [Change.mutation, Instance.delete?] at hmutate
    by_cases hi : i.deletionTime.isSome
    · simp only [if_pos hi] at hmutate
      cases hmutate
      exact (hchanged rfl).elim
    · simp only [if_neg hi] at hmutate
      cases hmutate
      exact ⟨⟨i, version, hread, by simpa using hi, rfl⟩, rfl⟩

/-- What an attempt to record a time finds that has nothing to write. -/
theorem settled_of_attempt {v : Committed (Change × Option Instance)}
    (h : Service.attempt key (Change.mutation (Instance.delete? time))
      (s.find? .machine (EntityKey.text key)) = .stop (.ok v)) :
    (v.value.1 = .unchanged ∧ s.Deleted key) ∨
      (v.value.1 = .missing ∧ s.read Instance key = .ok none) := by
  obtain ⟨version, current, hdecode, hsame, rfl⟩ := Service.attempt_eq_stop_ok.1 h
  have hread := Service.read_eq_ok.2 ⟨_, hdecode⟩
  cases current with
  | none => exact .inr ⟨rfl, hread⟩
  | some i =>
    simp only [Change.mutation, Instance.delete?] at hsame ⊢
    by_cases hi : i.deletionTime.isSome
    · rw [if_pos hi]
      exact .inl ⟨rfl, i, hread, hi⟩
    · simp only [if_neg hi, Option.some.injEq] at hsame
      -- a record that is its own with the time set has the time set
      exact absurd (congrArg (·.deletionTime.isSome) hsame) (by simpa using hi)

variable {σ : Type} {c : Cloud σ} {es : List Exchange} {t : MemoryStore}

/-- **How the transaction that records a time ends**, from its exchanges. -/
theorem recorded_of_yields {result : Except Failure Change}
    (hy : (setDeletionTime key time).Yields es result) (hgenuine : ∀ e ∈ es, e.Genuine c)
    (hamid : Amid s es t) : Recorded key time es result := by
  rcases Service.Yields.of_bind hy with ⟨before, after, ⟨change, found⟩, rfl, hchange, hrest⟩ |
    ⟨f, hchange, rfl⟩
  · obtain ⟨inner, htransact, hvalue⟩ := Service.Yields.of_change hchange
    obtain ⟨u, hbefore, -⟩ := hamid.of_append
    have hclosing := Service.closing_of_yields htransact
      (fun e he => hgenuine e (List.mem_append_left _ he)) hbefore
    cases inner with
    | error f => cases hvalue
    | ok v =>
      obtain ⟨⟨change', found'⟩, written⟩ := v
      cases hvalue
      generalize hv : (Except.ok ⟨(change, found), written⟩ :
        Except Failure (Committed (Change × Option Instance))) = inner at hclosing
      cases hclosing with
      | gaveUp idle => cases hv
      | wrote idle decision =>
        cases hv
        obtain ⟨hrecording, rfl⟩ := recording_of_attempt decision
        cases hrest
        rw [List.append_nil]
        exact .updated idle hrecording
      | stopped idle decision =>
        subst hv
        rcases settled_of_attempt decision with ⟨rfl, hdeleted⟩ | ⟨rfl, habsent⟩
        · cases hrest
          rw [List.append_nil]
          exact .unchanged idle hdeleted
        · cases hrest with
          | ask rest =>
            cases rest
            rw [List.append_assoc]
            exact .missing idle habsent
  · obtain ⟨inner, htransact, hvalue⟩ := Service.Yields.of_change hchange
    cases inner with
    | ok v => cases hvalue
    | error g => exact .failed (Service.closing_of_yields htransact hgenuine hamid).not_deed

end Recording

/-! ## What a deletion goes through -/

/-- A look-up that finds a record. -/
def Exchange.Finds {ρ κ : Type} [Entity ρ κ] (e : Exchange) (key : κ) (r : ρ) : Prop :=
  ∃ s : MemoryStore, e = Service.reading .lookup key s ∧ s.read ρ key = .ok (some r)

/-- The exchange of a call that asks the cloud to delete instances. -/
def called (s : MemoryStore) (call : DeleteCall) (reply : Except ComputeError Operation) :
    Exchange :=
  ⟨s, .deleteInstances call, reply⟩

/-- A deletion of an instance, for one of the two reasons. -/
inductive DeletionRun where
  | pending (key : InstanceKey)
  | drained (key : InstanceKey)

namespace DeletionRun

/-- The service that it runs. -/
def service : DeletionRun → Service Unit
  | pending key => deletePending key
  | drained key => deleteDrained key

/-- The key of the instance. -/
def key : DeletionRun → InstanceKey
  | pending key | drained key => key

/-- What a deletion has looked up before it makes a call: its instance, which is not deleted and
has a reason to go, the manager and the revision above it, and for a drained group the template. -/
inductive Examines : DeletionRun → List Exchange → Instance → DeleteCall → Prop
  | pending {key : InstanceKey} {i : Instance} {manager : Manager} {revision : Revision}
      {call : DeleteCall} {e₁ e₂ e₃ : Exchange} (found : e₁.Finds key i)
      (alive : i.deletionTime = none) (marked : i.pendingDeletion = true)
      (managed : e₂.Finds i.instanceGroupManager manager)
      (revised : e₃.Finds manager.key.parent revision)
      (asked : deleteCall? revision manager i = some call) :
      Examines (.pending key) [e₁, e₂, e₃] i call
  | drained {key : InstanceKey} {i : Instance} {manager : Manager} {revision : Revision}
      {template : Template} {call : DeleteCall} {e₁ e₂ e₃ e₄ : Exchange} (found : e₁.Finds key i)
      (alive : i.deletionTime = none) (uncataloged : i.cataloged = false)
      (managed : e₂.Finds i.instanceGroupManager manager)
      (revised : e₃.Finds manager.key.parent revision)
      (templated : e₄.Finds revision.key.parent template)
      (drained : isDrained manager.key revision template = true)
      (asked : deleteCall? revision manager i = some call) :
      Examines (.drained key) [e₁, e₂, e₃, e₄] i call

/-- The exchanges of a deletion up to the reply to its call: what it has looked up, the time that it
will record, and the call. -/
def Calls (x : DeletionRun) (i : Instance) (time : Timestamp)
    (reply : Except ComputeError Operation) (es : List Exchange) : Prop :=
  ∃ looked s t call, x.Examines looked i call ∧
    es = looked ++ [⟨s, .now, time⟩, called t call reply]

/-- The exchanges of a deletion that has sent its event. The call has been answered with that
event, the transaction for the instance has ended, and the event with the hostname of the instance
is the last exchange. -/
inductive Reports (x : DeletionRun) :
    List Exchange → MachineEvent × String → Change → Prop
  | sent {before recording : List Exchange} {i : Instance} {time : Timestamp}
      {reply : Except ComputeError Operation} {event : MachineEvent} {change : Change}
      {s t : MemoryStore} {notice : Notice} (calls : x.Calls i time reply before)
      (answer : (DeletionAnswer.of reply).event? = some event)
      (recorded : Recorded i.key time recording (.ok change)) :
      Reports x (before ++ recording ++
        [⟨s, .note notice, ()⟩, ⟨t, .send event i.hostname, ()⟩]) (event, i.hostname) change

/-- The exchanges of a deletion from its start to its end, with the result. It makes no call, its
call leads to no event, its transaction fails, or it sends its event. -/
inductive Course (x : DeletionRun) : List Exchange → Except Failure Unit → Prop
  | idle {es : List Exchange} {result : Except Failure Unit} (idle : ∀ e ∈ es, ¬ e.isDeed) :
      Course x es result
  | refused {before after : List Exchange} {i : Instance} {time : Timestamp}
      {reply : Except ComputeError Operation} {result : Except Failure Unit}
      (calls : x.Calls i time reply before) (answer : (DeletionAnswer.of reply).event? = none)
      (idle : ∀ e ∈ after, ¬ e.isDeed) : Course x (before ++ after) result
  | unrecorded {before after : List Exchange} {i : Instance} {time : Timestamp}
      {reply : Except ComputeError Operation} {event : MachineEvent} {f : Failure}
      (calls : x.Calls i time reply before) (answer : (DeletionAnswer.of reply).event? = some event)
      (recorded : Recorded i.key time after (.error f)) : Course x (before ++ after) (.error f)
  | reported {es : List Exchange} {sent : MachineEvent × String} {change : Change}
      (reports : x.Reports es sent change) : Course x es (.ok ())

section Yields

variable {σ : Type} {c : Cloud σ} {es : List Exchange} {s t : MemoryStore} {x : DeletionRun}
  {result : Except Failure Unit}

/-- After a call that leads to an event the time is recorded and the event is sent. -/
theorem course_of_report {before : List Exchange} {i : Instance} {time : Timestamp}
    {reply : Except ComputeError Operation} {event : MachineEvent} {notice : Notice}
    (calls : x.Calls i time reply before) (answer : (DeletionAnswer.of reply).event? = some event)
    (hy : (do
      let _ ← setDeletionTime i.key time
      Service.note notice
      Service.send event i.hostname : Service Unit).Yields es result)
    (hgenuine : ∀ e ∈ es, e.Genuine c) (hamid : Amid s es t) : x.Course (before ++ es) result := by
  rcases Service.Yields.of_bind hy with ⟨recording, rest, change, rfl, hrecording, hrest⟩ |
    ⟨f, hrecording, rfl⟩
  · obtain ⟨u, hbefore, -⟩ := hamid.of_append
    have hrecorded := recorded_of_yields hrecording
      (fun e he => hgenuine e (List.mem_append_left _ he)) hbefore
    cases hrest with
    | ask hrest =>
      cases hrest with
      | ask hrest =>
        cases hrest
        rw [← List.append_assoc]
        exact .reported (.sent calls answer hrecorded)
  · exact .unrecorded calls answer (recorded_of_yields hrecording hgenuine hamid)

/-- What follows when an instance and all that is above it have been looked up. -/
theorem course_of_deleteInstance {looked : List Exchange} {revision : Revision}
    {manager : Manager} {i : Instance} (idle : ∀ e ∈ looked, ¬ e.isDeed)
    (examines : ∀ call, deleteCall? revision manager i = some call → x.Examines looked i call)
    (hy : (deleteInstance revision manager i).Yields es result)
    (hgenuine : ∀ e ∈ es, e.Genuine c) (hamid : Amid s es t) : x.Course (looked ++ es) result := by
  have hnothing : ∀ {es : List Exchange}, (∀ e ∈ es, ¬ e.isDeed) →
      x.Course (looked ++ es) result := fun h => .idle (List.forall_mem_append.2 ⟨idle, h⟩)
  unfold deleteInstance at hy
  split at hy
  · cases hy
    exact hnothing (List.forall_mem_nil _)
  · cases hcall : deleteCall? revision manager i with
    | none =>
      rw [hcall] at hy
      exact hnothing ((Service.quiet_note _).not_deed hy)
    | some call =>
      rw [hcall] at hy
      cases hy with
      | @ask _ _ u time _ _ hy =>
        cases hy with
        | @ask _ _ v reply es _ hy =>
          have calls : x.Calls i time reply (looked ++ [⟨u, .now, time⟩, called v call reply]) :=
            ⟨looked, u, v, call, examines call hcall, rfl⟩
          have hlater : ∀ e ∈ es, e.Genuine c := fun e he =>
            hgenuine e (List.mem_cons_of_mem _ (List.mem_cons_of_mem _ he))
          have hes : looked ++ (⟨u, .now, time⟩ :: called v call reply :: es) =
              looked ++ [⟨u, .now, time⟩, called v call reply] ++ es :=
            (List.append_assoc looked [_, _] es).symm
          refine (congrArg (x.Course · result) hes).mpr ?_
          simp only [Service.bind] at hy
          cases hanswer : DeletionAnswer.of reply with
          | accepted =>
            rw [hanswer] at hy
            exact course_of_report calls (by rw [hanswer]; rfl) hy hlater hamid.2.2
          | gone =>
            rw [hanswer] at hy
            exact course_of_report calls (by rw [hanswer]; rfl) hy hlater hamid.2.2
          | refused operation =>
            rw [hanswer] at hy
            exact .refused calls (by rw [hanswer]; rfl) ((Service.quiet_note _).not_deed hy)
          | failed e =>
            rw [hanswer] at hy
            cases hy
            exact .refused calls (by rw [hanswer]; rfl) (List.forall_mem_nil _)

/-- A deletion goes on with a record that it looks up, or ends without it. -/
theorem course_of_lookup {ρ κ : Type} [Entity ρ κ] {key : κ} {k : Option ρ → Service Unit}
    (looked : List Exchange) (idle : ∀ e ∈ looked, ¬ e.isDeed) (hnone : (k none).Quiet)
    (hsome : ∀ r e₁ rest, e₁.Finds key r → (∀ e ∈ looked ++ [e₁], ¬ e.isDeed) →
      (k (some r)).Yields rest result → (∀ e ∈ rest, e.Genuine c) → (∃ u, Amid u rest t) →
      x.Course (looked ++ [e₁] ++ rest) result)
    (hy : (Service.lookup ρ key >>= k).Yields es result) (hgenuine : ∀ e ∈ es, e.Genuine c)
    (hamid : Amid s es t) : x.Course (looked ++ es) result := by
  have hidle (u : MemoryStore) : ∀ e ∈ looked ++ [Service.reading .lookup key u], ¬ e.isDeed :=
    List.forall_mem_append.2 ⟨idle, List.forall_mem_singleton.2 Bool.false_ne_true⟩
  rcases Service.Yields.of_bind hy with ⟨before, rest, found, rfl, hlookup, hrest⟩ |
    ⟨f, hlookup, rfl⟩
  · obtain ⟨hfirst, hlater⟩ := List.forall_mem_append.1 hgenuine
    obtain ⟨v, -, hamidRest⟩ := hamid.of_append
    obtain ⟨u, rfl, hread⟩ := Service.lookup_of_yields hlookup hfirst
    rw [← List.append_assoc]
    cases found with
    | none => exact .idle (List.forall_mem_append.2 ⟨hidle u, hnone.not_deed hrest⟩)
    | some r => exact hsome r _ rest ⟨u, rfl, hread.symm⟩ (hidle u) hrest hlater ⟨v, hamidRest⟩
  · obtain ⟨u, rfl, -⟩ := Service.lookup_of_yields hlookup hgenuine
    exact .idle (hidle u)

/-- A deletion goes on with the ancestors of its instance, or ends without them. -/
theorem course_of_ancestors {looked : List Exchange} {i : Instance}
    {k : Option (Manager × Revision) → Service Unit} (idle : ∀ e ∈ looked, ¬ e.isDeed)
    (hnone : k none = .done ())
    (hsome : ∀ manager revision e₁ e₂ rest, e₁.Finds i.instanceGroupManager manager →
      e₂.Finds manager.key.parent revision → (∀ e ∈ looked ++ [e₁] ++ [e₂], ¬ e.isDeed) →
      (k (some (manager, revision))).Yields rest result → (∀ e ∈ rest, e.Genuine c) →
      (∃ u, Amid u rest t) → x.Course (looked ++ [e₁] ++ [e₂] ++ rest) result)
    (hy : (i.ancestors >>= k).Yields es result) (hgenuine : ∀ e ∈ es, e.Genuine c)
    (hamid : Amid s es t) : x.Course (looked ++ es) result := by
  have hstop (n : Notice) : (Service.note n >>= fun _ => k none).Quiet := by
    rw [hnone]
    exact (Service.quiet_note n).bind fun _ => trivial
  unfold Instance.ancestors at hy
  rw [Service.bind_assoc] at hy
  refine course_of_lookup looked idle (hstop _) (fun manager e₁ rest hmanager hidle hrest hgenuine
    ⟨u, hamid⟩ => ?_) hy hgenuine hamid
  simp only at hrest
  rw [Service.bind_assoc] at hrest
  refine course_of_lookup _ hidle (hstop _) (fun revision e₂ rest hrevision hidle hrest hgenuine
    ⟨u, hamid⟩ => ?_) hrest hgenuine hamid
  simp only at hrest
  split at hrest
  · exact .idle (List.forall_mem_append.2 ⟨hidle, (hstop _).not_deed hrest⟩)
  · exact hsome manager revision e₁ e₂ rest hmanager hrevision hidle hrest hgenuine ⟨u, hamid⟩

theorem course_of_deletePending {key : InstanceKey} (hy : (deletePending key).Yields es result)
    (hgenuine : ∀ e ∈ es, e.Genuine c) (hamid : Amid s es t) :
    (DeletionRun.pending key).Course es result := by
  unfold deletePending at hy
  refine course_of_lookup [] (List.forall_mem_nil _) ?_ (fun i e₁ rest hfound hidle hrest hgenuine
    ⟨u, hamid⟩ => ?_) hy hgenuine hamid
  · trivial
  · have hnothing (h : ∀ e ∈ rest, ¬ e.isDeed) :
        (DeletionRun.pending key).Course ([e₁] ++ rest) result :=
      .idle (List.forall_mem_append.2 ⟨hidle, h⟩)
    simp only at hrest
    split at hrest
    · cases hrest
      exact hnothing (List.forall_mem_nil _)
    · split at hrest
      · exact hnothing ((Service.quiet_note _).not_deed hrest)
      · split at hrest
        · exact hnothing ((Service.quiet_note _).not_deed hrest)
        · rename_i halive hmarked hurl
          refine course_of_ancestors hidle rfl (fun manager revision e₂ e₃ rest hmanager
            hrevision hidle hrest hgenuine ⟨u, hamid⟩ => ?_) hrest hgenuine hamid
          refine course_of_deleteInstance hidle (fun call hcall => ?_) hrest hgenuine hamid
          exact .pending hfound (by simpa using halive) (by simpa using hmarked) hmanager
            hrevision hcall

theorem course_of_deleteDrained {key : InstanceKey} (hy : (deleteDrained key).Yields es result)
    (hgenuine : ∀ e ∈ es, e.Genuine c) (hamid : Amid s es t) :
    (DeletionRun.drained key).Course es result := by
  unfold deleteDrained at hy
  refine course_of_lookup [] (List.forall_mem_nil _) ?_ (fun i e₁ rest hfound hidle hrest hgenuine
    ⟨u, hamid⟩ => ?_) hy hgenuine hamid
  · exact Service.quiet_note _
  · have hnothing (h : ∀ e ∈ rest, ¬ e.isDeed) :
        (DeletionRun.drained key).Course ([e₁] ++ rest) result :=
      .idle (List.forall_mem_append.2 ⟨hidle, h⟩)
    simp only at hrest
    split at hrest
    · cases hrest
      exact hnothing (List.forall_mem_nil _)
    · split at hrest
      · exact hnothing ((Service.quiet_note _).not_deed hrest)
      · split at hrest
        · exact hnothing ((Service.quiet_note _).not_deed hrest)
        · rename_i halive huncataloged hurl
          refine course_of_ancestors hidle rfl (fun manager revision e₂ e₃ rest hmanager
            hrevision hidle hrest hgenuine ⟨u, hamid⟩ => ?_) hrest hgenuine hamid
          refine course_of_lookup _ hidle (Service.quiet_note _) (fun template e₄ rest htemplate
            hidle hrest hgenuine ⟨u, hamid⟩ => ?_) hrest hgenuine hamid
          simp only at hrest
          split at hrest
          · rename_i hdrained
            refine course_of_deleteInstance hidle (fun call hcall => ?_) hrest hgenuine hamid
            exact .drained hfound (by simpa using halive) (by simpa using huncataloged) hmanager
              hrevision htemplate hdrained hcall
          · exact .idle (List.forall_mem_append.2
              ⟨hidle, (Service.quiet_note _).not_deed hrest⟩)

/-- **Every deletion takes one of the courses**, from its exchanges. -/
theorem course_of_yields (hy : x.service.Yields es result) (hgenuine : ∀ e ∈ es, e.Genuine c)
    (hamid : Amid s es t) : x.Course es result := by
  cases x with
  | pending key => exact course_of_deletePending hy hgenuine hamid
  | drained key => exact course_of_deleteDrained hy hgenuine hamid

end Yields

end DeletionRun

end FleetReconciler
