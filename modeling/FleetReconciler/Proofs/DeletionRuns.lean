import FleetReconciler.Proofs.DeletionCourse

/-!
# Deletions among others

The event of a deletion follows the answer of the cloud: it is sent once the transaction that
records the time has ended, whether it wrote or found the time already set.

* `Accepted` — a call whose answer leads to an event;
* `DeletionRun.Reports.settled`, `DeletionRun.Course.events_iff` and its neighbours — what the
  exchanges of a deletion show about its event and its write;
* `Follows.no_second_recording` — a time that is set is not recorded again;
* `deletion_event_follows_answer` — **an event for each accepted call, and one recording an
  instance**.
-/

namespace FleetReconciler

/-! ## What a course shows -/

/-- Whether an exchange is a call whose answer leads to an event. -/
def Exchange.Accepts (e : Exchange) (event : MachineEvent) : Prop :=
  ∃ s call reply, e = called s call reply ∧ (DeletionAnswer.of reply).event? = some event

/-- Whether an exchange is a call whose answer leads to no event. -/
def Exchange.TurnedDown (e : Exchange) : Prop :=
  ∃ s call reply, e = called s call reply ∧ (DeletionAnswer.of reply).event? = none

theorem Exchange.TurnedDown.not_accepts {e : Exchange} {event : MachineEvent} (h : e.TurnedDown) :
    ¬ e.Accepts event := by
  obtain ⟨s, call, reply, rfl, hnone⟩ := h
  rintro ⟨s', call', reply', heq, hsome⟩
  unfold called at heq
  cases heq
  rw [hnone] at hsome
  cases hsome

theorem Exchange.Accepts.isDeed {e : Exchange} {event : MachineEvent} (h : e.Accepts event) :
    e.isDeed := by
  obtain ⟨s, call, reply, rfl, -⟩ := h
  rfl

/-- Whether deeds hold a call that leads to an event. -/
def Accepted (deeds : List Exchange) (event : MachineEvent) : Prop :=
  ∃ e ∈ deeds, e.Accepts event

theorem Recording.write_isSome {key : InstanceKey} {time : Timestamp} {e : Exchange}
    (h : Recording key time e) : e.write?.isSome := by
  obtain ⟨i, version, -, -, he⟩ := h
  rw [he]
  rfl

theorem Recording.event_eq_none {key : InstanceKey} {time : Timestamp} {e : Exchange}
    (h : Recording key time e) : e.event? = none := by
  obtain ⟨i, version, -, -, he⟩ := h
  rw [he]
  rfl

namespace Recorded

variable {key : InstanceKey} {time : Timestamp} {es : List Exchange}
  {result : Except Failure Change}

/-- A transaction that has recorded nothing has found the instance settled, or has failed. -/
theorem still_or_recording (h : Recorded key time es result) :
    ((∀ e ∈ es, e.IsStill) ∧ ((∃ f, result = .error f) ∨
      ∃ overtaken u, Service.reading (.transaction overtaken) key u ∈ es ∧
        (u.Deleted key ∨ u.read Instance key = .ok none))) ∨
    ∃ lead e t, es = lead ++ [e, ⟨t, .save, .ok ()⟩] ∧ (∀ e ∈ lead, e.IsStill) ∧
      Recording key time e := by
  cases h with
  | failed idle => exact .inl ⟨Exchange.forall_isStill idle, .inl ⟨_, rfl⟩⟩
  | updated idle recording =>
    exact .inr ⟨_, _, _, rfl, Exchange.forall_isStill idle, recording⟩
  | unchanged idle deleted =>
    refine .inl ⟨?_, .inr ⟨_, _, List.mem_append_right _ List.mem_cons_self, .inl deleted⟩⟩
    exact List.forall_mem_append.2
      ⟨Exchange.forall_isStill idle, List.forall_mem_singleton.2 ⟨rfl, rfl⟩⟩
  | missing idle absent =>
    refine .inl ⟨?_, .inr ⟨_, _, List.mem_append_right _ List.mem_cons_self, .inr absent⟩⟩
    exact List.forall_mem_append.2 ⟨Exchange.forall_isStill idle,
      List.forall_mem_cons.2 ⟨⟨rfl, rfl⟩, List.forall_mem_singleton.2 ⟨rfl, rfl⟩⟩⟩

/-- The transaction sends nothing. -/
theorem event_eq_none (h : Recorded key time es result) : ∀ e ∈ es, e.event? = none := by
  rcases h.still_or_recording with ⟨hstill, -⟩ | ⟨lead, e, t, rfl, hlead, hrecording⟩
  · exact fun e he => (hstill e he).2
  · exact List.forall_mem_append.2 ⟨fun e he => (hlead e he).2, List.forall_mem_cons.2
      ⟨hrecording.event_eq_none, List.forall_mem_singleton.2 rfl⟩⟩

/-- Whatever the transaction writes is a recording. -/
theorem recording (h : Recorded key time es result) {e : Exchange} (he : e ∈ es)
    (hw : e.write?.isSome) : Recording key time e := by
  rcases h.still_or_recording with ⟨hstill, -⟩ | ⟨lead, e', t, rfl, hlead, hrecording⟩
  · exact ((hstill e he).not_write hw).elim
  · rcases List.mem_append.1 he with he | he
    · exact ((hlead e he).not_write hw).elim
    · rcases List.mem_cons.1 he with rfl | he
      · exact hrecording
      · -- the save is no write
        rw [List.mem_singleton.1 he] at hw
        cases hw

theorem writes_length (h : Recorded key time es result) :
    (es.filterMap Exchange.write?).length ≤ 1 := by
  rcases h.still_or_recording with ⟨hstill, -⟩ | ⟨lead, e, t, rfl, hlead, hrecording⟩
  · rw [List.filterMap_eq_nil_iff.2 fun e he => (hstill e he).1]
    exact Nat.zero_le 1
  · obtain ⟨w, hw⟩ := Option.isSome_iff_exists.1 hrecording.write_isSome
    rw [List.filterMap_append, List.filterMap_eq_nil_iff.2 fun e he => (hlead e he).1,
      List.filterMap_cons_some hw]
    exact Nat.le_refl 1

end Recorded

namespace DeletionRun

variable {x : DeletionRun} {i : Instance} {time : Timestamp}
  {reply : Except ComputeError Operation} {es all : List Exchange}

theorem Examines.not_deed {looked : List Exchange} {call : DeleteCall}
    (h : x.Examines looked i call) : ∀ e ∈ looked, ¬ e.isDeed := by
  have hfinds {ρ κ : Type} [Entity ρ κ] {key : κ} {r : ρ} {e : Exchange} (h : e.Finds key r) :
      ¬ e.isDeed := by
    obtain ⟨s, rfl, -⟩ := h
    exact Bool.false_ne_true
  cases h with
  | pending found _ _ managed revised _ =>
    simp only [List.forall_mem_cons]
    exact ⟨hfinds found, hfinds managed, hfinds revised, List.forall_mem_nil _⟩
  | drained found _ _ managed revised templated _ _ =>
    simp only [List.forall_mem_cons]
    exact ⟨hfinds found, hfinds managed, hfinds revised, hfinds templated, List.forall_mem_nil _⟩

/-- The call is the only deed up to its reply. -/
theorem Calls.exists_call (h : x.Calls i time reply es) :
    ∃ lead s call, es = lead ++ [called s call reply] ∧ ∀ e ∈ lead, ¬ e.isDeed := by
  obtain ⟨looked, s, t, call, hexamines, rfl⟩ := h
  refine ⟨looked ++ [⟨s, .now, time⟩], t, call, ?_, ?_⟩
  · rw [List.append_assoc]
    rfl
  · exact List.forall_mem_append.2
      ⟨hexamines.not_deed, List.forall_mem_singleton.2 Bool.false_ne_true⟩

theorem Calls.still (h : x.Calls i time reply es) : ∀ e ∈ es, e.IsStill := by
  obtain ⟨lead, s, call, rfl, hlead⟩ := h.exists_call
  exact List.forall_mem_append.2
    ⟨Exchange.forall_isStill hlead, List.forall_mem_singleton.2 ⟨rfl, rfl⟩⟩

namespace Reports

variable {sent : MachineEvent × String} {change : Change}

/-- The event is the last exchange, and the only event. -/
theorem exists_last (h : x.Reports all sent change) :
    ∃ lead t, all = lead ++ [⟨t, .send sent.1 sent.2, ()⟩] ∧ ∀ e ∈ lead, e.event? = none := by
  cases h with
  | @sent before recording i _ _ event _ s t notice calls answer recorded =>
    refine ⟨before ++ recording ++ [⟨s, .note notice, ()⟩], t,
      (List.append_assoc _ [_] [_]).symm, ?_⟩
    exact List.forall_mem_append.2 ⟨List.forall_mem_append.2
      ⟨fun e he => (calls.still e he).2, recorded.event_eq_none⟩, List.forall_mem_singleton.2 rfl⟩

theorem events_eq (h : x.Reports all sent change) : all.filterMap Exchange.event? = [sent] := by
  obtain ⟨lead, t, rfl, hlead⟩ := h.exists_last
  rw [List.filterMap_append, List.filterMap_eq_nil_iff.2 hlead]
  rfl

theorem accepted (h : x.Reports all sent change) : Accepted all sent.1 := by
  cases h with
  | sent calls answer recorded =>
    obtain ⟨lead, s, call, rfl, -⟩ := calls.exists_call
    refine ⟨called s call _, ?_, s, call, _, rfl, answer⟩
    simp only [List.append_assoc, List.mem_append, List.mem_singleton, true_or, or_true]

/-- What is written is a recording, after the call. -/
theorem recording (h : x.Reports all sent change) (hes : es <+: all) {e : Exchange} (he : e ∈ es)
    (hw : e.write?.isSome) :
    ∃ i time reply before, x.Calls i time reply before ∧ before <+: es ∧
      (DeletionAnswer.of reply).event? = some sent.1 ∧ Recording i.key time e := by
  cases h with
  | @sent before recording i time reply event _ s t notice calls answer recorded =>
    have hcalls : e ∉ before := fun hmem => (calls.still e hmem).not_write hw
    have hlast : e ∉ [⟨s, .note notice, ()⟩, ⟨t, .send event i.hostname, ()⟩] := by
      intro hmem
      rcases List.mem_cons.1 hmem with rfl | hmem
      · cases hw
      · rw [List.mem_singleton.1 hmem] at hw
        cases hw
    have hmem : e ∈ recording := by
      have hall := (List.mem_append.1 (hes.subset he)).resolve_right hlast
      exact (List.mem_append.1 hall).resolve_left hcalls
    have hbefore : before <+: es := by
      have hall : before <+: before ++ recording ++ [⟨s, .note notice, ()⟩,
          ⟨t, .send event i.hostname, ()⟩] :=
        (List.prefix_append before recording).trans (List.prefix_append _ _)
      rcases List.prefix_or_prefix_of_prefix hall hes with hstarts | hstarts
      · exact hstarts
      · exact (hcalls (hstarts.subset he)).elim
    exact ⟨i, time, reply, before, calls, hbefore, answer, recorded.recording hmem hw⟩

/-- What has sent its event without a write has found its instance settled after the call. -/
theorem settled (h : x.Reports es sent change) (hnone : ∀ e ∈ es, e.write? = none) :
    ∃ i time reply before rest overtaken u, x.Calls i time reply before ∧ es = before ++ rest ∧
      Service.reading (.transaction overtaken) i.key u ∈ rest ∧
      (u.Deleted i.key ∨ u.read Instance i.key = .ok none) := by
  cases h with
  | sent calls answer recorded =>
    rcases recorded.still_or_recording with
      ⟨-, ⟨f, hf⟩ | ⟨overtaken, u, hreading, hfound⟩⟩ | ⟨lead, e, t, rfl, -, hrecording⟩
    · cases hf
    · exact ⟨_, _, _, _, _, overtaken, u, calls, List.append_assoc ..,
        List.mem_append_left _ hreading, hfound⟩
    · have hwrite := hnone e (by simp)
      have hsome := hrecording.write_isSome
      rw [hwrite] at hsome
      cases hsome

/-- It writes at most once. -/
theorem writes_length (h : x.Reports all sent change) :
    (all.filterMap Exchange.write?).length ≤ 1 := by
  cases h with
  | @sent before recording _ _ _ _ _ _ _ _ calls answer recorded =>
    rw [List.filterMap_append, List.filterMap_append,
      List.filterMap_eq_nil_iff.2 fun e he => (calls.still e he).1, List.nil_append]
    -- the notice and the event are no writes
    exact (List.append_nil (recording.filterMap Exchange.write?)).symm ▸ recorded.writes_length

end Reports

namespace Course

variable {result : Except Failure Unit}

/-- A deletion that has not sent its event has done nothing but a call. -/
theorem still_or_reports (h : x.Course all result) :
    (∀ e ∈ all, e.IsStill) ∨ result = .ok () ∧ ∃ sent change, x.Reports all sent change := by
  cases h with
  | idle idle => exact .inl (Exchange.forall_isStill idle)
  | refused calls answer idle =>
    exact .inl (List.forall_mem_append.2 ⟨calls.still, Exchange.forall_isStill idle⟩)
  | unrecorded calls answer recorded =>
    cases recorded with
    | failed idle =>
      exact .inl (List.forall_mem_append.2 ⟨calls.still, Exchange.forall_isStill idle⟩)
  | reported reports => exact .inr ⟨rfl, _, _, reports⟩

/-- As long as a deletion has not sent its event nothing is reported. -/
theorem events (h : x.Course all result) (hes : es <+: all) :
    es.filterMap Exchange.event? = [] ∨
      ∃ sent change, es.filterMap Exchange.event? = [sent] ∧ x.Reports es sent change := by
  rcases h.still_or_reports with hstill | ⟨-, sent, change, hreports⟩
  · exact .inl (List.filterMap_eq_nil_iff.2 fun e he => (hstill e (hes.subset he)).2)
  · obtain ⟨lead, t, hall, hlead⟩ := hreports.exists_last
    rcases List.prefix_concat_iff.1 (hall ▸ hes) with hwhole | hstarts
    · obtain rfl : es = all := hwhole.trans hall.symm
      exact .inr ⟨sent, change, hreports.events_eq, hreports⟩
    · exact .inl (List.filterMap_eq_nil_iff.2 fun e he => hlead e (hstarts.subset he))

/-- A deletion that has ended well has sent an event exactly when its call was accepted. -/
theorem events_iff (h : x.Course es (.ok ())) :
    es.filterMap Exchange.event? ≠ [] ↔ ∃ event, Accepted es event := by
  constructor
  · intro hevents
    rcases h.events (List.prefix_refl es) with hnone | ⟨sent, change, -, hreports⟩
    · exact (hevents hnone).elim
    · exact ⟨sent.1, hreports.accepted⟩
  · rintro ⟨event, e, he, haccepts⟩
    cases h with
    | idle idle => exact (idle e he haccepts.isDeed).elim
    | refused calls answer idle =>
      obtain ⟨lead, s, call, rfl, hlead⟩ := calls.exists_call
      rcases List.mem_append.1 he with he | he
      · rcases List.mem_append.1 he with he | he
        · exact (hlead e he haccepts.isDeed).elim
        · have hturned : e.TurnedDown := ⟨s, call, _, List.mem_singleton.1 he, answer⟩
          exact (hturned.not_accepts haccepts).elim
      · exact (idle e he haccepts.isDeed).elim
    | reported reports =>
      rw [reports.events_eq]
      exact List.cons_ne_nil _ _

/-- A deletion that has ended well and has written has sent an event. -/
theorem events_of_write (h : x.Course es (.ok ())) {e : Exchange} (he : e ∈ es)
    (hw : e.write?.isSome) : es.filterMap Exchange.event? ≠ [] := by
  rcases h.still_or_reports with hstill | ⟨-, sent, change, hreports⟩
  · exact ((hstill e he).not_write hw).elim
  · rw [hreports.events_eq]
    exact List.cons_ne_nil _ _

/-- A deletion that has failed has sent nothing and has not written. -/
theorem failed {f : Failure} (h : x.Course es (.error f)) : ∀ e ∈ es, e.IsStill := by
  rcases h.still_or_reports with hstill | ⟨hresult, -⟩
  · exact hstill
  · cases hresult

/-- Whatever a deletion writes is a recording, after an accepted call. -/
theorem recording (h : x.Course all result) (hes : es <+: all) {e : Exchange} (he : e ∈ es)
    (hw : e.write?.isSome) :
    ∃ i time reply before event, x.Calls i time reply before ∧ before <+: es ∧
      (DeletionAnswer.of reply).event? = some event ∧ Recording i.key time e := by
  rcases h.still_or_reports with hstill | ⟨-, sent, change, hreports⟩
  · exact ((hstill e (hes.subset he)).not_write hw).elim
  · obtain ⟨i, time, reply, before, hcalls, hbefore, hanswer, hrecording⟩ :=
      hreports.recording hes he hw
    exact ⟨i, time, reply, before, sent.1, hcalls, hbefore, hanswer, hrecording⟩

theorem writes_length (h : x.Course all result) (hes : es <+: all) :
    (es.filterMap Exchange.write?).length ≤ 1 := by
  refine Nat.le_trans (hes.filterMap Exchange.write?).length_le ?_
  rcases h.still_or_reports with hstill | ⟨-, sent, change, hreports⟩
  · rw [List.filterMap_eq_nil_iff.2 fun e he => (hstill e he).1]
    exact Nat.zero_le 1
  · exact hreports.writes_length

/-- An event without a write: the instance was settled when the transaction read it. -/
theorem settled (h : x.Course all result) (hes : es <+: all)
    (hevents : es.filterMap Exchange.event? ≠ []) (hnone : ∀ e ∈ es, e.write? = none) :
    ∃ i time reply before rest overtaken u, x.Calls i time reply before ∧ es = before ++ rest ∧
      Service.reading (.transaction overtaken) i.key u ∈ rest ∧
      (u.Deleted i.key ∨ u.read Instance i.key = .ok none) := by
  rcases h.events hes with hsilent | ⟨sent, change, -, hreports⟩
  · exact (hevents hsilent).elim
  · exact hreports.settled hnone

end Course

end DeletionRun

/-! ## One recording an instance -/

section Recordings

variable {key : InstanceKey} {history : List Happening} {s t : MemoryStore}

/-- What is deleted at the start is deleted at the end, if no entry clears it. -/
theorem Follows.deleted (h : Follows s history t)
    (hkeep : ∀ x ∈ history, x.records.Deleted key → x.after.Deleted key) (hs : s.Deleted key) :
    t.Deleted key := by
  induction history generalizing s with
  | nil => exact h ▸ hs
  | cons x history ih =>
    obtain ⟨rfl, hrest⟩ := h
    have hafter := hkeep x List.mem_cons_self hs
    exact ih hrest (fun y hy => hkeep y (List.mem_cons_of_mem _ hy)) hafter

/-- A recording leaves its instance deleted, and every other as it was. -/
theorem Recording.deleted_after {other : InstanceKey} {time : Timestamp} {e : Exchange}
    (h : Recording other time e) (place : Nat) (hdeleted : key = other ∨ e.records.Deleted key) :
    (Happening.served place e).after.Deleted key := by
  obtain ⟨i, version, -, -, he⟩ := h
  have hafter : (Happening.served place e).after = e.records.put .machine (EntityKey.text other)
      (Entity.stored { i with deletionTime := some time }) := by
    rw [he]
    rfl
  rw [hafter]
  by_cases hkey : key = other
  · subst hkey
    have hread := MemoryStore.read_put_self e.records key { i with deletionTime := some time }
    exact ⟨{ i with deletionTime := some time }, hread, rfl⟩
  · obtain ⟨j, hread, hj⟩ := hdeleted.resolve_left hkey
    have hne : ¬ (EntityKey.kind InstanceKey = .machine ∧
        EntityKey.text key = EntityKey.text other) := fun h =>
      hkey (EntityKey.text_injective h.2)
    exact ⟨j, by rw [MemoryStore.read_put_of_ne e.records hne]; exact hread, hj⟩

theorem Recording.not_deleted {time : Timestamp} {e : Exchange} (h : Recording key time e) :
    ¬ e.records.Deleted key := by
  obtain ⟨i, version, hread, hi, -⟩ := h
  rintro ⟨j, hread', hj⟩
  rw [hread] at hread'
  cases hread'
  simp [hi] at hj

/-- Of two recordings of an instance the later would find it deleted. -/
theorem Follows.no_second_recording {pre mid post : List Happening} {p q : Nat} {e e' : Exchange}
    {time time' : Timestamp}
    (h : Follows s (pre ++ .served p e :: (mid ++ .served q e' :: post)) t)
    (hkeep : ∀ x ∈ mid, x.records.Deleted key → x.after.Deleted key)
    (he : Recording key time e) (he' : Recording key time' e') : False := by
  obtain ⟨-, hrest⟩ := h.split
  obtain ⟨hmid, -⟩ := hrest.split
  exact he'.not_deleted (hmid.deleted hkeep (he.deleted_after p (.inl rfl)))

end Recordings

/-- No entry but those of the first places clears the time of deletion of an instance. -/
def NeverCleared (key : InstanceKey) (n : Nat) (history : List Happening) : Prop :=
  ∀ x ∈ history, (∀ place e, place < n → x ≠ .served place e) →
    x.records.Deleted key → x.after.Deleted key

section Runs

variable {σ : Type} {c : Cloud σ} {n : Nat} {w : World σ}

/-- A deletion keeps every time of deletion that is set. -/
theorem NeverCleared.keeps {key : InstanceKey} (h : NeverCleared key n w.history)
    (hwrites : ∀ place, place < n → ∀ e ∈ w.exchangesAt place, e.write?.isSome →
      ∃ key time, Recording key time e) :
    ∀ x ∈ w.history, x.records.Deleted key → x.after.Deleted key := by
  intro x hx hdeleted
  cases x with
  | put records r => exact h _ hx (fun place e _ heq => by cases heq) hdeleted
  | served place e =>
    by_cases hplace : place < n
    · cases hw : e.write? with
      | none =>
        have hafter : (Happening.served place e).after = e.records := by
          simp [Happening.after, Happening.write?, hw, Happening.records]
        rwa [hafter]
      | some write =>
        obtain ⟨other, time, hrecording⟩ :=
          hwrites place hplace e (World.mem_exchangesAt.2 hx) (by rw [hw]; rfl)
        exact hrecording.deleted_after place (.inr hdeleted)
    · refine h _ hx (fun p e' hp heq => ?_) hdeleted
      cases heq
      exact hplace hp

/-- Two recordings of an instance are one. -/
theorem NeverCleared.one_recording {key : InstanceKey} {s t : MemoryStore}
    (h : NeverCleared key n w.history) (hfollows : Follows s w.history t)
    (hwrites : ∀ place, place < n → ∀ e ∈ w.exchangesAt place, e.write?.isSome →
      ∃ key time, Recording key time e) {p q : Nat} {e e' : Exchange} {time time' : Timestamp}
    (hp : e ∈ w.exchangesAt p) (hq : e' ∈ w.exchangesAt q) (he : Recording key time e)
    (he' : Recording key time' e') : p = q := by
  have hkeep := h.keeps hwrites
  have hx := World.mem_exchangesAt.1 hp
  have hy := World.mem_exchangesAt.1 hq
  obtain ⟨pre, post, hsplit⟩ := List.append_of_mem hx
  rw [hsplit] at hy
  rcases List.mem_append.1 hy with hy | hy
  · obtain ⟨a, b, rfl⟩ := List.append_of_mem hy
    have hhistory : w.history = a ++ .served q e' :: (b ++ .served p e :: post) := by
      rw [hsplit]
      simp
    have hmid : ∀ x ∈ b, x.records.Deleted key → x.after.Deleted key := fun x hx =>
      hkeep x (by rw [hhistory]; simp [hx])
    exact (Follows.no_second_recording (hhistory ▸ hfollows) hmid he' he).elim
  · rcases List.mem_cons.1 hy with hy | hy
    · injection hy with hpq
      exact hpq.symm
    · obtain ⟨a, b, rfl⟩ := List.append_of_mem hy
      have hmid : ∀ x ∈ a, x.records.Deleted key → x.after.Deleted key := fun x hx =>
        hkeep x (by rw [hsplit]; simp [hx])
      exact (Follows.no_second_recording (hsplit ▸ hfollows) hmid he he').elim

end Runs

/-- **The event of a deletion follows the answer of the cloud, and each instance is recorded once.**
Any number of deletions and any other services take their steps in any order, and others put records
in between. A deletion sends at most one event. It has then looked up its instance with all that is
above it, its call for that instance was answered with the event, its own transaction has recorded
the time, found the time set or found no record, and the event bears the hostname of the instance.
When a deletion ends well it has sent an event exactly when its call was accepted, and so whenever
it has written; when it fails it has neither sent nor written anything. It writes at most once, and
only the time of its instance, after its accepted call. Without a write it sends an event only where
its transaction, after the call, found the time set or no record. If nobody else clears the time of
deletion of an instance, at most one deletion records it. -/
theorem deletion_event_follows_answer {σ : Type} (c : Cloud σ) (session : Session σ)
    (store : MemoryStore) (runs : List DeletionRun) (others : List (Service Unit))
    (turns : List Turn) :
    let s := (Crowd.start session store (runs.map DeletionRun.service ++ others)).run c turns
    Follows store s.world.history s.world.records ∧
    (∀ place x, runs[place]? = some x →
      let es := s.world.exchangesAt place
      (s.world.events place = [] ∨ ∃ sent change,
        s.world.events place = [sent] ∧ x.Reports es sent change) ∧
      (s.services[place]? = some (.done ()) →
        (s.world.events place ≠ [] ↔ ∃ event, Accepted es event) ∧
        ∀ e ∈ es, e.write?.isSome → s.world.events place ≠ []) ∧
      (∀ f, s.services[place]? = some (.fail f) →
        s.world.events place = [] ∧ ∀ e ∈ es, e.write? = none) ∧
      (es.filterMap Exchange.write?).length ≤ 1 ∧
      (∀ e ∈ es, e.write?.isSome → ∃ i time reply before event,
        x.Calls i time reply before ∧ before <+: es ∧
          (DeletionAnswer.of reply).event? = some event ∧ Recording i.key time e) ∧
      (s.world.events place ≠ [] → (∀ e ∈ es, e.write? = none) →
        ∃ i time reply before rest overtaken u, x.Calls i time reply before ∧
          es = before ++ rest ∧ Service.reading (.transaction overtaken) i.key u ∈ rest ∧
          (u.Deleted i.key ∨ u.read Instance i.key = .ok none))) ∧
    (∀ key, NeverCleared key runs.length s.world.history → ∀ p q e e' time time',
      e ∈ s.world.exchangesAt p → e' ∈ s.world.exchangesAt q → Recording key time e →
      Recording key time' e' → p = q) := by
  intro s
  have hfollows : Follows store s.world.history s.world.records :=
    Crowd.follows_run c turns (Crowd.follows_start session store _)
  have hcourse : ∀ place x, runs[place]? = some x → ∃ all result, x.Course all result ∧
      s.world.exchangesAt place <+: all ∧ ∀ r, s.services[place]? = some (.lift r) →
        s.world.exchangesAt place = all ∧ result = r := by
    intro place x hx
    have hlt : place < runs.length := (List.getElem?_eq_some_iff.1 hx).1
    have hservice : (runs.map DeletionRun.service ++ others)[place]? = some x.service := by
      rw [List.getElem?_append_left (by simpa using hlt), List.getElem?_map, hx]
      rfl
    obtain ⟨more, result, t, hy, hgenuine, hamid, hended⟩ :=
      Crowd.exists_whole c session store _ turns hservice
    refine ⟨_, result, DeletionRun.course_of_yields hy hgenuine hamid, List.prefix_append _ _,
      fun r hr => ?_⟩
    obtain ⟨hmore, hresult⟩ := hended r hr
    exact ⟨by rw [hmore, List.append_nil], hresult⟩
  have hwrites : ∀ place, place < runs.length → ∀ e ∈ s.world.exchangesAt place,
      e.write?.isSome → ∃ key time, Recording key time e := by
    intro place hplace e he hw
    obtain ⟨all, result, h, hes, -⟩ := hcourse place _ (List.getElem?_eq_getElem hplace)
    obtain ⟨i, time, -, -, -, -, -, -, hrecording⟩ := h.recording hes he hw
    exact ⟨i.key, time, hrecording⟩
  refine ⟨hfollows, fun place x hx => ?_, fun key hkey p q e e' time time' hp hq he he' =>
    hkey.one_recording hfollows hwrites hp hq he he'⟩
  obtain ⟨all, result, h, hes, hended⟩ := hcourse place x hx
  simp only [World.events_eq]
  refine ⟨h.events hes, fun hdone => ?_, fun f hfail => ?_, h.writes_length hes,
    fun e he hw => h.recording hes he hw, fun hevents hnone => h.settled hes hevents hnone⟩
  · obtain ⟨rfl, rfl⟩ := hended (.ok ()) hdone
    exact ⟨h.events_iff, fun e he hw => h.events_of_write he hw⟩
  · obtain ⟨rfl, rfl⟩ := hended (.error f) hfail
    have hstill := h.failed
    exact ⟨List.filterMap_eq_nil_iff.2 fun e he => (hstill e he).2, fun e he => (hstill e he).1⟩

/-- An event does not need a recording, and one instance may have two events. In the first run
another writer sets the time between the call and the transaction; in the second run, which nobody
disturbs, both deletions call before either records the time. -/
theorem event_without_recording :
    let key := Sample.machine.key
    let disturbed := (Crowd.start Sample.session Sample.store
      [(DeletionRun.pending key).service]).run CloudScript.cloud
        (List.replicate 6 (.serve 0) ++
          .put (.machine { Sample.machine with deletionTime := some Sample.midnight }) ::
          List.replicate 5 (.serve 0))
    let undisturbed := (Crowd.start Sample.session Sample.store
      [(DeletionRun.pending key).service, (DeletionRun.drained key).service]).run CloudScript.cloud
        (List.replicate 5 (.serve 0) ++ List.replicate 6 (.serve 1) ++
          List.replicate 5 (.serve 0) ++ List.replicate 3 (.serve 1))
    (disturbed.world.events 0 = [(.deletionScheduled, "vm")] ∧
      ∀ e ∈ disturbed.world.deeds 0, e.write? = none) ∧
    (NeverCleared key 2 undisturbed.world.history ∧
      undisturbed.world.events 0 = [(.deletionScheduled, "vm")] ∧
      undisturbed.world.events 1 = [(.deletionScheduled, "vm")]) := by
  intro key disturbed undisturbed
  have hserved : undisturbed.world.history.all (fun x => x.place?.any (· < 2)) = true := by
    decide +kernel
  refine ⟨by decide +kernel, fun x hx hothers _ => ?_, by decide +kernel⟩
  have hx := List.all_eq_true.1 hserved x hx
  cases x with
  | put records r => cases hx
  | served place e => exact (hothers place e (by simpa [Happening.place?] using hx) rfl).elim

end FleetReconciler
