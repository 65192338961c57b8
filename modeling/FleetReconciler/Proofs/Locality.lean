import FleetReconciler.Proofs.Job
import FleetReconciler.Proofs.DrainedScan
import FleetReconciler.Proofs.FileAndMemory

/-!
# Services of one instance

What is done for one instance depends on the record of the instance and on those of its manager,
revision and template, and on nothing else that is stored; and it writes the record of the instance
only. So two stores that agree on these four, and may be different or broken everywhere else, see
the same calls, the same events and the same new record.

* `MemoryStore.SameValue`, `MemoryStore.KeptBut` — two stores that agree under one key, or
  everywhere else;
* `Session.Alongside` — two sessions that have gone on in the same way from two others;
* `Service.Local`, `local_changing` — what depends on the record of one instance, and that changes
  and deletions of it do;
* `MemoryStore.AgreeAbout` — two stores that agree on an instance and on the records above it;
* `instance_services_are_local` — **nothing else matters, and nothing else is changed**.
-/

namespace FleetReconciler

open Service

/-! ## Stored values -/

namespace MemoryStore

/-- What is stored under an id in the table of a name. -/
def filed? (s : MemoryStore) (table id : String) : Option Stored :=
  (Table.get? table s.tables).bind (Table.get? id)

theorem find?_eq_filed? (s : MemoryStore) (kind : Kind) (id : String) :
    s.find? kind id = s.filed? kind.name id := by
  unfold find? filed? table
  cases Table.get? kind.name s.tables <;> rfl

theorem filed?_put_of_ne (s : MemoryStore) {kind : Kind} {id table id' : String}
    (h : (table, id') ≠ (kind.name, id)) (value : Json) :
    (s.put kind id value).filed? table id' = s.filed? table id' := by
  by_cases htable : table = kind.name
  · subst htable
    have hid : id' ≠ id := fun hid => h (by rw [hid])
    rw [← find?_eq_filed?, ← find?_eq_filed?, find?_put_of_id_ne s kind hid]
  · simp only [put, filed?, Table.get?_insert_of_ne htable]

section Keys

variable {κ : Type} [EntityKey κ]

/-- The two stores hold the same value under a key, in whatever version, or both hold none. -/
def SameValue (s t : MemoryStore) (key : κ) : Prop :=
  (s.find? (EntityKey.kind κ) (EntityKey.text key)).map Stored.value =
    (t.find? (EntityKey.kind κ) (EntityKey.text key)).map Stored.value

/-- The second store holds what the first one holds, except under a key. -/
def KeptBut (key : κ) (s t : MemoryStore) : Prop :=
  ∀ table id, (table, id) ≠ ((EntityKey.kind κ).name, EntityKey.text key) →
    t.filed? table id = s.filed? table id

instance (s t : MemoryStore) (key : κ) : Decidable (s.SameValue t key) :=
  inferInstanceAs (Decidable (_ = _))

variable {s t u : MemoryStore} {key : κ}

theorem SameValue.put (s t : MemoryStore) (key : κ) (value : Json) :
    (s.put (EntityKey.kind κ) (EntityKey.text key) value).SameValue
      (t.put (EntityKey.kind κ) (EntityKey.text key) value) key := by
  unfold SameValue
  rw [find?_put_self, find?_put_self]
  rfl

theorem KeptBut.refl (key : κ) (s : MemoryStore) : s.KeptBut key s := fun _ _ _ => rfl

theorem KeptBut.trans (h : KeptBut key s t) (h' : KeptBut key t u) : KeptBut key s u :=
  fun table id hne => (h' table id hne).trans (h table id hne)

theorem KeptBut.put (s : MemoryStore) (key : κ) (value : Json) :
    KeptBut key s (s.put (EntityKey.kind κ) (EntityKey.text key) value) :=
  fun _ _ hne => filed?_put_of_ne s hne value

end Keys

theorem SameValue.read {ρ κ : Type} [Entity ρ κ] {s t : MemoryStore} {key : κ}
    (h : s.SameValue t key) : s.read ρ key = t.read ρ key :=
  StoreStep.decodeStored_congr h _ _

end MemoryStore

/-! ## Two sessions side by side -/

/-- Two lists that have been continued by the same items. -/
def ContinuedAlike {α : Type} (l l' : List α × List α) : Prop :=
  ∃ new, l'.1 = l.1 ++ new ∧ l'.2 = l.2 ++ new

section

variable {α : Type} {l l' l'' : List α × List α}

theorem ContinuedAlike.refl (l : List α × List α) : ContinuedAlike l l :=
  ⟨[], (List.append_nil _).symm, (List.append_nil _).symm⟩

theorem ContinuedAlike.append (l : List α × List α) (new : List α) :
    ContinuedAlike l (l.1 ++ new, l.2 ++ new) := ⟨new, rfl, rfl⟩

theorem ContinuedAlike.trans (h : ContinuedAlike l l') (h' : ContinuedAlike l' l'') :
    ContinuedAlike l l'' := by
  obtain ⟨new, hleft, hright⟩ := h
  obtain ⟨more, hleft', hright'⟩ := h'
  exact ⟨new ++ more, by rw [hleft', hleft, List.append_assoc],
    by rw [hright', hright, List.append_assoc]⟩

end

namespace Session

variable {σ : Type}

/-- Two sessions in memory that nothing tells apart as far as one instance is concerned. -/
structure Beside (key : InstanceKey) (s t : Session σ) : Prop where
  left : s.InMemory
  right : t.InMemory
  cloud : s.cloud = t.cloud
  clock : s.clock = t.clock
  value : s.records.SameValue t.records key

/-- Two sessions have gone on from two others in the same way: by the same calls, events and
notices, and without a change of any record but that of one instance. -/
structure Alongside (key : InstanceKey) (s t s' t' : Session σ) : Prop where
  beside : Beside key s' t'
  calls : ContinuedAlike (s.calls, t.calls) (s'.calls, t'.calls)
  events : ContinuedAlike (s.events, t.events) (s'.events, t'.events)
  log : ContinuedAlike (s.log, t.log) (s'.log, t'.log)
  left : s.records.KeptBut key s'.records
  right : t.records.KeptBut key t'.records

variable {key : InstanceKey} {s t s' t' s'' t'' : Session σ}

theorem Alongside.refl (h : Beside key s t) : Alongside key s t s t :=
  ⟨h, .refl _, .refl _, .refl _, .refl _ _, .refl _ _⟩

theorem Alongside.trans (h : Alongside key s t s' t') (h' : Alongside key s' t' s'' t'') :
    Alongside key s t s'' t'' where
  beside := h'.beside
  calls := h.calls.trans h'.calls
  events := h.events.trans h'.events
  log := h.log.trans h'.log
  left := h.left.trans h'.left
  right := h.right.trans h'.right

/-- A request that is not about the store has the same reply and the same effect in both. -/
theorem Beside.foreign (h : Beside key s t) (c : Cloud σ) {r : Request} (hr : r.IsForeign) :
    (perform c r s).1 = (perform c r t).1 ∧
      Alongside key s t (perform c r s).2 (perform c r t).2 := by
  have hst := h
  obtain ⟨hleft, hright, hcloud, hclock, hvalue⟩ := h
  cases r with
  | listInstances call =>
    simp only [perform, hcloud]
    exact ⟨trivial, ⟨hleft, hright, rfl, hclock, hvalue⟩, .append _ _, .refl _, .refl _, .refl _ _,
      .refl _ _⟩
  | deleteInstances call =>
    simp only [perform, hcloud]
    exact ⟨trivial, ⟨hleft, hright, rfl, hclock, hvalue⟩, .append _ _, .refl _, .refl _, .refl _ _,
      .refl _ _⟩
  | now => exact ⟨hclock, .refl hst⟩
  | send event hostname =>
    exact ⟨rfl, ⟨hleft, hright, hcloud, hclock, hvalue⟩, .refl _, .append _ _, .append _ _,
      .refl _ _, .refl _ _⟩
  | note n =>
    exact ⟨rfl, ⟨hleft, hright, hcloud, hclock, hvalue⟩, .refl _, .refl _, .append _ _, .refl _ _,
      .refl _ _⟩
  | pageBudget => exact ⟨congrArg c.pageBudget hcloud, .refl hst⟩
  | turns => exact ⟨rfl, .refl hst⟩
  | _ => exact hr.elim

/-- Other records in both leave them side by side if they agree, and differ from those before only
under the key. -/
theorem Beside.withRecords (h : Beside key s t) {records records' : MemoryStore}
    (hvalue : records.SameValue records' key) (hleft : s.records.KeptBut key records)
    (hright : t.records.KeptBut key records') :
    Alongside key s t (s.withRecords records) (t.withRecords records') where
  beside := ⟨h.left.withRecords _, h.right.withRecords _, h.cloud, h.clock, by simpa using hvalue⟩
  calls := .refl _
  events := .refl _
  log := .refl _
  left := by simpa using hleft
  right := by simpa using hright

end Session

/-! ## Services that depend on one record -/

namespace Service

variable {σ α β : Type} {c : Cloud σ} {key : InstanceKey} {s t : Session σ}

/-- A service ends alike in two sessions: with the same result, and after the same effects. -/
def Alike (c : Cloud σ) (key : InstanceKey) (s t : Session σ) (service : Service α) : Prop :=
  (s.serve c service).1 = (t.serve c service).1 ∧
    Session.Alongside key s t (s.serve c service).2 (t.serve c service).2

/-- A service that ends alike in any two sessions with the same record of an instance. -/
def Local (c : Cloud σ) (key : InstanceKey) (service : Service α) : Prop :=
  ∀ s t : Session σ, Session.Beside key s t → Alike c key s t service

theorem Local.done (a : α) : Local c key (done a) := fun _ _ h => ⟨rfl, .refl h⟩

theorem Local.fail (f : Failure) : Local c key (fail f : Service α) := fun _ _ h => ⟨rfl, .refl h⟩

theorem Local.foreign {r : Request} {next : r.Reply → Service α} (hr : r.IsForeign)
    (h : ∀ reply, Local c key (next reply)) : Local c key (ask r next) := by
  intro s t hst
  obtain ⟨hreply, hafter⟩ := hst.foreign c hr
  obtain ⟨hresult, hend⟩ := h (Session.perform c r s).1 _ _ hafter.beside
  unfold Alike Session.serve at *
  rw [run_ask, run_ask, ← hreply]
  exact ⟨hresult, hafter.trans hend⟩

theorem Local.bind {service : Service α} {k : α → Service β} (h : Local c key service)
    (hk : ∀ a, Local c key (k a)) : Local c key (service >>= k) := by
  intro s t hst
  obtain ⟨hresult, hafter⟩ := h s t hst
  unfold Alike Session.serve at *
  rw [run_bind, run_bind]
  cases hs : service.run (Session.perform c) s with
  | mk r s' =>
    cases ht : service.run (Session.perform c) t with
    | mk r' t' =>
      rw [hs, ht] at hresult hafter
      obtain rfl : r = r' := hresult
      cases r with
      | error f => exact ⟨rfl, hafter⟩
      | ok a =>
        obtain ⟨hresult, hend⟩ := hk a s' t' hafter.beside
        exact ⟨hresult, hafter.trans hend⟩

theorem Local.within {service : Service α} (context : Context) (h : Local c key service) :
    Local c key (service.within context) := by
  intro s t hst
  obtain ⟨hresult, hafter⟩ := h s t hst
  unfold Alike Session.serve at *
  rw [run_within, run_within]
  exact ⟨congrArg (inContext context) hresult, hafter⟩

/-- **A transaction on the record decides by its value**, and writes that record or nothing. -/
theorem Local.transact (mutate : Option Instance → Option Instance × β) :
    Local c key (transact key mutate) := by
  intro s t hst
  have hdecision := StoreStep.attempt_congr key mutate Sum.inl (fun r value => .inr (r, value))
    hst.value
  unfold Alike
  rw [Session.serve_transact c key mutate hst.left, Session.serve_transact c key mutate hst.right]
  cases hs : attempt key mutate (s.records.find? _ (EntityKey.text key)) with
  | stop r =>
    cases ht : attempt key mutate (t.records.find? _ (EntityKey.text key)) with
    | stop r' =>
      rw [hs, ht] at hdecision
      cases hdecision
      exact ⟨rfl, .refl hst⟩
    | write version' record' value' =>
      rw [hs, ht] at hdecision
      cases hdecision
  | write version record value =>
    cases ht : attempt key mutate (t.records.find? _ (EntityKey.text key)) with
    | stop r' =>
      rw [hs, ht] at hdecision
      cases hdecision
    | write version' record' value' =>
      rw [hs, ht] at hdecision
      cases hdecision
      exact ⟨rfl, hst.withRecords (.put s.records t.records key _) (.put s.records key _)
        (.put t.records key _)⟩

theorem Local.change (context : Context) (rule : Instance → Option Instance) :
    Local c key (Service.change context key rule) :=
  (Local.within context (.transact _)).bind fun _ => .done _

/-- **Changes of an instance, and the call that deletes it, depend on its record only.** -/
theorem local_changing (c : Cloud σ) (key : InstanceKey) :
    Changing (fun _ service => Local c key service) key where
  done := .done
  fail _ := .fail _
  bind := .bind
  foreign := .foreign
  change context _ _ := .change context _

/-! ### Look-ups -/

/-- A look-up leaves the two sessions as they are, and gives both the same record. -/
theorem Alike.lookup {ρ κ : Type} [Entity ρ κ] {place : κ} {k : Option ρ → Service α}
    (hst : Session.Beside key s t) (hsame : s.records.SameValue t.records place)
    (h : ∀ found, s.records.read ρ place = .ok found → Alike c key s t (k found)) :
    Alike c key s t (Service.lookup ρ place >>= k) := by
  unfold Alike
  rw [Session.serve_lookup_bind, Session.serve_lookup_bind, ← hsame.read]
  cases hread : s.records.read ρ place with
  | error f => exact ⟨rfl, .refl hst⟩
  | ok found => exact h found hread

end Service

/-! ## The records above an instance -/

/-- Two stores hold the same values for an instance and for its manager, revision and template, each
found by the key that the record below it has; the record of the instance is filed under its key. -/
structure MemoryStore.AgreeAbout (key : InstanceKey) (s t : MemoryStore) : Prop where
  value : s.SameValue t key
  filed : ∀ i, s.read Instance key = .ok (some i) → i.key = key
  manager : ∀ i, s.read Instance key = .ok (some i) → s.SameValue t i.instanceGroupManager
  revision : ∀ i m, s.read Instance key = .ok (some i) →
    s.read Manager i.instanceGroupManager = .ok (some m) → s.SameValue t m.key.parent
  template : ∀ i m r, s.read Instance key = .ok (some i) →
    s.read Manager i.instanceGroupManager = .ok (some m) →
    s.read Revision m.key.parent = .ok (some r) → s.SameValue t r.key.parent

/-- Where the instance, its manager and its revision are found, there are four values to compare. -/
theorem MemoryStore.AgreeAbout.of_found {key : InstanceKey} {s t : MemoryStore} {i : Instance}
    {m : Manager} {r : Revision} (hi : s.read Instance key = .ok (some i))
    (hm : s.read Manager i.instanceGroupManager = .ok (some m))
    (hr : s.read Revision m.key.parent = .ok (some r)) (hkey : i.key = key)
    (hinstance : s.SameValue t key) (hmanager : s.SameValue t i.instanceGroupManager)
    (hrevision : s.SameValue t m.key.parent) (htemplate : s.SameValue t r.key.parent) :
    s.AgreeAbout key t := by
  have hi' : ∀ i', s.read Instance key = .ok (some i') → i = i' := fun i' h =>
    Option.some.inj (Except.ok.inj (hi.symm.trans h))
  have hm' : ∀ m', s.read Manager i.instanceGroupManager = .ok (some m') → m = m' := fun m' h =>
    Option.some.inj (Except.ok.inj (hm.symm.trans h))
  refine ⟨hinstance, fun i' h => hi' i' h ▸ hkey, fun i' h => hi' i' h ▸ hmanager,
    fun i' m' h h' => ?_, fun i' m' r' h h' h'' => ?_⟩
  · obtain rfl := hi' i' h
    obtain rfl := hm' m' h'
    exact hrevision
  · obtain rfl := hi' i' h
    obtain rfl := hm' m' h'
    obtain rfl : r = r' := Option.some.inj (Except.ok.inj (hr.symm.trans h''))
    exact htemplate

namespace Service

variable {σ : Type} {c : Cloud σ} {key : InstanceKey} {s t : Session σ}

/-- The records above the instance are found alike, so what goes on with them has to be compared
only for those that are found. -/
theorem Alike.ancestors {α : Type} {i : Instance} {k : Option (Manager × Revision) → Service α}
    (hst : Session.Beside key s t) (hagree : s.records.AgreeAbout key t.records)
    (hi : s.records.read Instance key = .ok (some i)) (hnone : Local c key (k none))
    (hsome : ∀ m r, s.records.read Manager i.instanceGroupManager = .ok (some m) →
      s.records.read Revision m.key.parent = .ok (some r) → Alike c key s t (k (some (m, r)))) :
    Alike c key s t (i.ancestors >>= k) := by
  have hP := local_changing c key
  simp only [Instance.ancestors, bind_assoc]
  refine .lookup hst (hagree.manager i hi) fun found hm => ?_
  cases found with
  | none => exact (hP.bind (hP.note _) fun _ => hnone) s t hst
  | some m =>
    simp only [bind_assoc]
    refine .lookup hst (hagree.revision i m hi hm) fun found hr => ?_
    cases found with
    | none => exact (hP.bind (hP.note _) fun _ => hnone) s t hst
    | some r =>
      simp only
      split
      · exact (hP.bind (hP.note _) fun _ => hnone) s t hst
      · exact hsome m r hm hr

theorem Alike.deletePending (hst : Session.Beside key s t)
    (hagree : s.records.AgreeAbout key t.records) : Alike c key s t (deletePending key) := by
  have hP := local_changing c key
  refine .lookup hst hagree.value fun found hi => ?_
  cases found with
  | none => exact hP.done _ s t hst
  | some i =>
    simp only
    -- the checks of the record itself end the deletion alike
    split
    · exact hP.done _ s t hst
    split
    · exact hP.note _ s t hst
    split
    · exact hP.note _ s t hst
    refine .ancestors hst hagree hi (hP.done _) fun m r hm hr => ?_
    exact hP.deleteInstance r m (hagree.filed i hi) s t hst

theorem Alike.deleteDrained (hst : Session.Beside key s t)
    (hagree : s.records.AgreeAbout key t.records) : Alike c key s t (deleteDrained key) := by
  have hP := local_changing c key
  refine .lookup hst hagree.value fun found hi => ?_
  cases found with
  | none => exact hP.note _ s t hst
  | some i =>
    simp only
    -- the checks of the record itself end the deletion alike
    split
    · exact hP.done _ s t hst
    split
    · exact hP.note _ s t hst
    split
    · exact hP.note _ s t hst
    refine .ancestors hst hagree hi (hP.done _) fun m r hm hr => ?_
    refine .lookup hst (hagree.template i m r hi hm hr) fun found _ => ?_
    cases found with
    | none => exact hP.note _ s t hst
    | some template =>
      simp only
      split
      · exact hP.deleteInstance r m (hagree.filed i hi) s t hst
      · exact hP.note _ s t hst

end Service

/-! ## The services of one instance -/

/-- What can be done for one instance, with its arguments. -/
inductive InstanceCall where
  | deletePending
  | deleteDrained
  | mark
  | setLease (expiration : Option Timestamp)
  | subscribe (project subscription serviceAccount : String)
  | recordDeletion (time : Timestamp)

namespace InstanceCall

/-- The type of the result of a call. -/
@[reducible]
def Answer : InstanceCall → Type
  | deletePending | deleteDrained => Unit
  | mark | setLease _ | subscribe .. | recordDeletion _ => Change

/-- The service that does a call for an instance. -/
def service (key : InstanceKey) : (call : InstanceCall) → Service call.Answer
  | deletePending => FleetReconciler.deletePending key
  | deleteDrained => FleetReconciler.deleteDrained key
  | mark => markForDeletion key
  | setLease expiration => FleetReconciler.setLease key expiration
  | subscribe project subscription serviceAccount =>
    addSubscription key project subscription serviceAccount
  | recordDeletion time => setDeletionTime key time

/-- Each of these services ends alike in two sessions that agree about the instance. -/
theorem alike {σ : Type} {c : Cloud σ} {key : InstanceKey} {s t : Session σ} (call : InstanceCall)
    (hst : Session.Beside key s t) (hagree : s.records.AgreeAbout key t.records) :
    Alike c key s t (call.service key) := by
  have hP := local_changing c key
  cases call with
  | deletePending => exact .deletePending hst hagree
  | deleteDrained => exact .deleteDrained hst hagree
  | mark => exact hP.markForDeletion s t hst
  | setLease expiration => exact hP.setLease expiration s t hst
  | subscribe project subscription serviceAccount =>
    exact hP.addSubscription project subscription serviceAccount s t hst
  | recordDeletion time => exact hP.setDeletionTime time s t hst

end InstanceCall

/-- **What is done for one instance depends on its record and on those above it, and changes its
record only.** Two sessions in memory with the same cloud and the same time of day, whose stores
agree about an instance, give every service of it the same result. They make the same calls, report
the same events, write the same to the log, and end with the same value for the instance. Whatever
else either of them stores, of any kind and under any id, is left as it was, a record or not. -/
theorem instance_services_are_local {σ : Type} (c : Cloud σ) (key : InstanceKey)
    (call : InstanceCall) {s t : Session σ} (hs : s.InMemory) (ht : t.InMemory)
    (hcloud : s.cloud = t.cloud) (hclock : s.clock = t.clock)
    (hagree : s.records.AgreeAbout key t.records) :
    let p := s.serve c (call.service key)
    let q := t.serve c (call.service key)
    p.1 = q.1 ∧
      (∃ calls, p.2.calls = s.calls ++ calls ∧ q.2.calls = t.calls ++ calls) ∧
      (∃ events, p.2.events = s.events ++ events ∧ q.2.events = t.events ++ events) ∧
      (∃ notices, p.2.log = s.log ++ notices ∧ q.2.log = t.log ++ notices) ∧
      p.2.records.SameValue q.2.records key ∧
      s.records.KeptBut key p.2.records ∧ t.records.KeptBut key q.2.records := by
  obtain ⟨hresult, hend⟩ :=
    call.alike (c := c) ⟨hs, ht, hcloud, hclock, hagree.value⟩ hagree
  exact ⟨hresult, hend.calls, hend.events, hend.log, hend.beside.value, hend.left, hend.right⟩

/-! ### A store with a broken record -/

namespace Sample

/-- The key of another instance of the manager. -/
def brokenKey : InstanceKey := ⟨managerKey, ⟨"broken", by decide⟩⟩

/-- The small store with every record written again, and with a value that is no record. -/
def brokenStore : MemoryStore :=
  (records.foldl (fun s r => s.apply r.write) store).put .machine (EntityKey.text brokenKey) .null

/-- The session on this store. -/
def brokenSession : Session CloudScript := { session with backend := .memory brokenStore }

theorem agreeAbout_brokenStore : store.AgreeAbout machine.key brokenStore := by
  have hi : store.read Instance machine.key = .ok (some machine) := by decide +kernel
  have hm : store.read Manager managerKey = .ok (some { key := managerKey }) := by decide +kernel
  have hr : store.read Revision managerKey.parent = .ok (some
      { key := managerKey.parent, project := some "p", drained := .ofList [managerKey] }) := by
    decide +kernel
  have hinstance : store.SameValue brokenStore machine.key := by decide +kernel
  have hmanager : store.SameValue brokenStore managerKey := by decide +kernel
  have hrevision : store.SameValue brokenStore managerKey.parent := by decide +kernel
  have htemplate : store.SameValue brokenStore managerKey.parent.parent := by decide +kernel
  exact .of_found hi hm hr rfl hinstance hmanager hrevision htemplate

end Sample

/-- The marked instance is deleted as it is without the broken record, which stays where it is. -/
theorem deletion_beside_broken_record :
    (Sample.session.InMemory ∧ Sample.brokenSession.InMemory ∧
      Sample.session.cloud = Sample.brokenSession.cloud ∧
      Sample.session.clock = Sample.brokenSession.clock ∧
      Sample.session.records.AgreeAbout Sample.machine.key Sample.brokenSession.records) ∧
    ∃ p q,
      Sample.session.serve CloudScript.cloud
        (InstanceCall.deletePending.service Sample.machine.key) = p ∧
      Sample.brokenSession.serve CloudScript.cloud
        (InstanceCall.deletePending.service Sample.machine.key) = q ∧
      p.1 = .ok () ∧ q.1 = .ok () ∧ p.2.calls.length = 1 ∧ q.2.calls = p.2.calls ∧
      q.2.records.read Instance Sample.machine.key =
        .ok (some { Sample.machine with deletionTime := some Sample.midnight }) ∧
      q.2.records.find? .machine (EntityKey.text Sample.brokenKey) = some ⟨1, .null⟩ := by
  have hs : Sample.session.InMemory := ⟨_, rfl⟩
  have ht : Sample.brokenSession.InMemory := ⟨_, rfl⟩
  have hcloud : Sample.session.cloud = Sample.brokenSession.cloud :=
    (rfl : ({} : CloudScript) = {})
  have hclock : Sample.session.clock = Sample.brokenSession.clock :=
    (rfl : Sample.midnight = Sample.midnight)
  have hagree : Sample.session.records.AgreeAbout Sample.machine.key
      Sample.brokenSession.records := by
    simpa only [Sample.session, Sample.brokenSession, Session.records, Backend.records]
      using Sample.agreeAbout_brokenStore
  obtain ⟨hresult, ⟨calls, hpcalls, hqcalls⟩, -, -, hvalue, -, hkept⟩ := instance_services_are_local
    CloudScript.cloud Sample.machine.key .deletePending hs ht hcloud hclock hagree
  have hcalls : Sample.brokenSession.calls = Sample.session.calls := (rfl : ([] : List _) = [])
  -- what the first session comes to is computed, and the second one comes to the same
  obtain ⟨hp, hone, hdeleted⟩ :
      (Sample.session.serve CloudScript.cloud
        (InstanceCall.deletePending.service Sample.machine.key)).1 = .ok () ∧
      (Sample.session.serve CloudScript.cloud
        (InstanceCall.deletePending.service Sample.machine.key)).2.calls.length = 1 ∧
      (Sample.session.serve CloudScript.cloud
        (InstanceCall.deletePending.service Sample.machine.key)).2.records.read Instance
          Sample.machine.key =
        .ok (some { Sample.machine with deletionTime := some Sample.midnight }) := by
    decide +kernel
  have hbroken : Sample.brokenSession.records.find? .machine (EntityKey.text Sample.brokenKey) =
      some ⟨1, .null⟩ := by decide +kernel
  have hother : (Kind.machine.name, EntityKey.text Sample.brokenKey) ≠
      (Kind.machine.name, EntityKey.text Sample.machine.key) := by decide +kernel
  rw [MemoryStore.find?_eq_filed?] at hbroken
  refine ⟨⟨hs, ht, hcloud, hclock, hagree⟩, _, _, rfl, rfl, hp, hresult.symm.trans hp, hone, ?_,
    hvalue.read.symm.trans hdeleted, ?_⟩
  · rw [hqcalls, hcalls, hpcalls]
  · rw [MemoryStore.find?_eq_filed?, hkept _ _ hother, hbroken]

end FleetReconciler
