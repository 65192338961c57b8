import FleetReconciler.Proofs.Gather
import FleetReconciler.Proofs.SoundStore
import FleetReconciler.Deletion

/-!
# What the services write

The services of the reconciler make three kinds of writes: a change of an instance record, the first
record of an instance, and the list of a manager. `MemoryStore.Upkeep` says all of what such a write
meets and stores. That a service makes no others is read off its tree in a scene, which is a store
whose other collaborators may answer anything, so the answers of the cloud, the order of the turns
inside a service and the time of day do not matter.

* `Instance.Step` — the four changes of a record;
* `MemoryStore.Upkeep`, `MemoryStore.Tended` — the writes, and a store before and after one request;
* `Scene` — a store with any answers to all that is not about the store;
* `Service.Tends` — a service that makes no other writes, whatever happens between its requests;
* `transact_tends`, `change_tends` — **a transaction tends the store if every decision of it does**.
-/

namespace FleetReconciler

/-! ## Writes -/

namespace Instance

/-- A change of the record of an instance. -/
inductive Step (i : Instance) : Instance → Prop
  | mark (unmarked : i.pendingDeletion = false) :
      Step i { i with leaseExpiration := none, pendingDeletion := true }
  | lease (expiration : Option Timestamp) : Step i { i with leaseExpiration := expiration }
  | subscribe (project subscription serviceAccount : String)
      (unsubscribed : Text.nonEmpty? i.subscription = none) :
      Step i { i with
        pendingMetadataUpdates := i.pendingMetadataUpdates ++
          [subscriptionUpdate project subscription serviceAccount]
        serviceAccount := some serviceAccount
        subscription := some (subscriptionPath project subscription) }
  | delete (time : Timestamp) (undeleted : i.deletionTime = none) :
      Step i { i with deletionTime := some time }

theorem step_of_mark? {i j : Instance} (h : i.mark? = some j) : i.Step j := by
  simp only [mark?] at h
  split at h <;> cases h
  rename_i hunmarked
  exact .mark (by simpa using hunmarked)

theorem step_of_lease? {expiration : Option Timestamp} {i j : Instance}
    (h : i.lease? expiration = some j) : i.Step j := by
  simp only [lease?] at h
  split at h <;> cases h
  exact .lease expiration

theorem step_of_subscribe? {project subscription serviceAccount : String} {i j : Instance}
    (h : i.subscribe? project subscription serviceAccount = some j) : i.Step j := by
  simp only [subscribe?] at h
  split at h <;> cases h
  rename_i hunsubscribed
  exact .subscribe project subscription serviceAccount (by simpa using hunsubscribed)

theorem step_of_delete? {time : Timestamp} {i j : Instance} (h : i.delete? time = some j) :
    i.Step j := by
  simp only [delete?] at h
  split at h <;> cases h
  rename_i hundeleted
  exact .delete time (by simpa using hundeleted)

/-- A change leaves the key alone. -/
theorem Step.key_eq {i j : Instance} (h : i.Step j) : j.key = i.key := by
  cases h <;> rfl

end Instance

namespace MemoryStore

/-- Whether there is a record of an instance, of whatever value. -/
def HasInstance (s : MemoryStore) (key : InstanceKey) : Prop :=
  (s.find? .machine (EntityKey.text key)).isSome

/-- A write of a service to a store. -/
inductive Upkeep (s : MemoryStore) : Write → Prop
  /-- The record of an instance is changed by a rule. -/
  | change {i j : Instance} (found : s.read Instance i.key = .ok (some i)) (step : i.Step j) :
      Upkeep s ⟨.machine, EntityKey.text i.key, Entity.stored j⟩
  /-- An instance that has no record gets one. -/
  | create {key : InstanceKey} {url : String}
      (missing : s.find? .machine (EntityKey.text key) = none)
      (named : instanceName? url = some key.name.text) :
      Upkeep s ⟨.machine, EntityKey.text key, Entity.stored (Instance.discovered key url key.parent)⟩
  /-- A manager gets another list; the instances on it are its own and have records. -/
  | list {m : Manager} {instances : List InstanceKey} (found : s.read Manager m.key = .ok (some m))
      (listed : ∀ key ∈ instances, key.parent = m.key ∧ s.HasInstance key) :
      Upkeep s ⟨.manager, EntityKey.text m.key, Entity.stored { m with instances }⟩

/-- A store after a request of a service: as before, or with one write. -/
def Tended (s t : MemoryStore) : Prop := t = s ∨ ∃ w, s.Upkeep w ∧ t = s.apply w

theorem Tended.grows {s t : MemoryStore} (h : s.Tended t) : s.Grows t := by
  rcases h with rfl | ⟨w, -, rfl⟩
  · exact .refl _
  · exact grows_put _ w.kind w.id w.value

end MemoryStore

/-! ## Scenes -/

/-- A store, and what others than the store answer. -/
structure Scene where
  records : MemoryStore
  answers : (r : Request) → r.Reply

namespace Scene

/-- Performs a request. -/
def perform : (r : Request) → Scene → r.Reply × Scene
  | .read _ kind id, s => (.ok (s.records.find? kind id), s)
  | .commit kind id version value, s =>
    let (done, records) := s.records.commit kind id version value
    (done, { s with records })
  | .save, s => (.ok (), s)
  | .scan kind, s => (.ok (s.records.rows kind), s)
  | r, s => (s.answers r, s)

/-- The terms of upkeep: the store grows meanwhile, and every request tends it. What is answered
may change at any time. -/
def upkeep : Terms Scene where
  perform := perform
  rely s t := s.records.Grows t.records
  guarantee s t := s.records.Tended t.records
  refl s := .refl s.records
  trans := MemoryStore.Grows.trans

theorem shared : upkeep.Shared := fun h => MemoryStore.Tended.grows h

/-- Only a commit touches the records. -/
theorem records_perform {r : Request} (h : ∀ kind id version value, r ≠ .commit kind id version value)
    (s : Scene) : (perform r s).2.records = s.records := by
  cases r with
  | commit kind id version value => exact (h kind id version value rfl).elim
  | _ => rfl

end Scene

namespace Service

variable {α β : Type}

/-- From a store on, whatever others write and answer, the service only tends the store. -/
def Tends (service : Service α) (s : MemoryStore) : Prop :=
  ∀ answers, service.Meets Scene.upkeep (fun _ _ => True) ⟨s, answers⟩

theorem Tends.later {service : Service α} {s t : MemoryStore} (h : service.Tends s)
    (grows : s.Grows t) : service.Tends t :=
  fun answers => (h answers).later grows

/-- What follows a service starts on a later store. -/
theorem Tends.bind {service : Service α} {k : α → Service β} {s : MemoryStore}
    (h : service.Tends s) (hk : ∀ a t, s.Grows t → (k a).Tends t) : (service >>= k).Tends s :=
  fun answers => ((h answers).since Scene.shared (Scene.upkeep.refl _)).bind
    (fun a t hst => hk a t.records hst.1 t.answers) fun _ _ _ => trivial

theorem Tends.within {service : Service α} {s : MemoryStore} (h : service.Tends s)
    (context : Context) : (service.within context).Tends s :=
  fun answers => (h answers).within (fun _ _ _ => trivial) fun _ _ _ => trivial

/-- A request that is no commit may be answered in any way. -/
theorem Tends.ask {r : Request} {next : r.Reply → Service α} {s : MemoryStore}
    (hr : ∀ kind id version value, r ≠ .commit kind id version value)
    (h : ∀ reply, (next reply).Tends s) : (ask r next).Tends s := by
  intro answers t hst
  have hrecords := Scene.records_perform hr t
  refine ⟨.inl hrecords, ((h _).later ?_) _⟩
  exact hrecords ▸ hst

/-! ### Services that do not write -/

/-- A service without a commit. -/
def WritesNothing : Service α → Prop
  | done _ | fail _ => True
  | ask r next => (∀ kind id version value, r ≠ .commit kind id version value) ∧
    ∀ reply, (next reply).WritesNothing

/-- A service without deeds does not write. -/
theorem Quiet.writesNothing {service : Service α} (h : service.Quiet) : service.WritesNothing := by
  induction service with
  | done a => trivial
  | fail f => trivial
  | ask r next ih =>
    refine ⟨?_, fun reply => ih reply (h.2 reply)⟩
    rintro kind id version value rfl
    cases h.1 {} true

namespace WritesNothing

theorem pure (a : α) : (Pure.pure a : Service α).WritesNothing := trivial

theorem bind {service : Service α} {k : α → Service β} (h : service.WritesNothing)
    (hk : ∀ a, (k a).WritesNothing) : (service >>= k).WritesNothing := by
  induction service with
  | done a => exact hk a
  | fail f => trivial
  | ask r next ih => exact ⟨h.1, fun reply => ih reply (h.2 reply)⟩

theorem within {service : Service α} (h : service.WritesNothing) (context : Context) :
    (service.within context).WritesNothing := by
  induction service with
  | done a => trivial
  | fail f => trivial
  | ask r next ih => exact ⟨h.1, fun reply => ih reply (h.2 reply)⟩

theorem send (event : MachineEvent) (hostname : String) :
    (Service.send event hostname).WritesNothing :=
  ⟨fun _ _ _ _ => Request.noConfusion, fun _ => trivial⟩

theorem note (n : Notice) : (Service.note n).WritesNothing := (quiet_note n).writesNothing

theorem lookup {ρ κ : Type} [Entity ρ κ] (key : κ) : (Service.lookup ρ key).WritesNothing :=
  (quiet_lookup key).writesNothing

theorem lift (r : Except Failure α) : (Service.lift r).WritesNothing := (quiet_lift r).writesNothing

theorem enqueue (t : Task) : (Service.enqueue t).WritesNothing :=
  ⟨nofun, fun r => (lift r).within _⟩

theorem records (ρ : Type) {κ : Type} [Entity ρ κ] :
    (Service.records ρ : Service (List ρ)).WritesNothing :=
  ⟨nofun, fun rows => (lift rows).bind fun _ => lift _⟩

theorem meets {service : Service α} (h : service.WritesNothing) (s : Scene) :
    service.Meets Scene.upkeep (fun _ _ => True) s := by
  induction service generalizing s with
  | done a => exact fun _ _ => trivial
  | fail f => exact fun _ _ => trivial
  | ask r next ih => exact fun t _ => ⟨.inl (Scene.records_perform h.1 t), ih _ (h.2 _) _⟩

theorem tends {service : Service α} (h : service.WritesNothing) (s : MemoryStore) :
    service.Tends s := fun answers => h.meets ⟨s, answers⟩

end WritesNothing

/-! ### Transactions -/

section Transactions

variable {ρ κ : Type} [Entity ρ κ] [DecidableEq ρ] {key : κ} {mutate : Option ρ → Option ρ × β}

/-- How a transaction ends well: its record is there, or an attempt had nothing to write. -/
def Finished (key : κ) (mutate : Option ρ → Option ρ × β) (r : Except Failure (Committed β))
    (s : MemoryStore) : Prop :=
  ∀ v, r = .ok v → (s.find? (EntityKey.kind κ) (EntityKey.text key)).isSome ∨
    ∃ t : MemoryStore, t.Grows s ∧
      attempt key mutate (t.find? (EntityKey.kind κ) (EntityKey.text key)) = .stop (.ok v)

theorem transactFrom_tends {s : MemoryStore}
    (hwrite : ∀ t : MemoryStore, s.Grows t → ∀ version record value,
      attempt key mutate (t.find? (EntityKey.kind κ) (EntityKey.text key)) =
        .write version record value →
      t.Upkeep ⟨EntityKey.kind κ, EntityKey.text key, Entity.stored record⟩) :
    ∀ (left overtaken : Nat) (t : Scene), s.Grows t.records →
      (transactFrom key mutate overtaken left).Meets Scene.upkeep
        (fun r u => Finished key mutate r u.records) t
  | 0, overtaken, t, _ => fun _ _ _ hv => by cases hv
  | left + 1, overtaken, t, hst => by
    rw [transactFrom_succ, request_bind]
    intro t₁ ht₁
    refine ⟨.inl rfl, ?_⟩
    have hst₁ := hst.trans ht₁
    show (lift (.ok (t₁.records.find? _ _)) >>= _ : Service _).Meets Scene.upkeep _ t₁
    rw [lift_ok_bind]
    split
    · rename_i result hstop
      have hend : ∀ t₂ : Scene, t₁.records.Grows t₂.records →
          Finished key mutate result t₂.records := by
        rintro t₂ ht₂ v rfl
        exact .inr ⟨t₁.records, ht₂, hstop⟩
      cases result with
      | ok v => exact hend
      | error f => exact hend
    · rename_i version record value hdecision
      rw [request_bind]
      intro t₂ ht₂
      have hversion := version_of_attempt hdecision
      by_cases hv : t₂.records.version (EntityKey.kind κ) (EntityKey.text key) = version
      · -- nobody has written since, so the decision is that of the record stored now
        have hfound := ht₂.find?_eq (hv.trans hversion)
        rw [← hfound] at hdecision
        have hupkeep := hwrite t₂.records (hst₁.trans ht₂) version record value hdecision
        have hperform : Scene.upkeep.perform (.commit (EntityKey.kind κ) (EntityKey.text key) version
            (Entity.stored record)) t₂ = (true, ⟨t₂.records.put (EntityKey.kind κ)
              (EntityKey.text key) (Entity.stored record), t₂.answers⟩) := by
          simp [Scene.upkeep, Scene.perform, MemoryStore.commit_eq, hv]
        rw [hperform]
        refine ⟨.inr ⟨_, hupkeep, rfl⟩, ?_⟩
        intro t₃ ht₃
        refine ⟨.inl rfl, fun t₄ ht₄ v _ => .inl ?_⟩
        refine (ht₃.trans ht₄).isSome ?_
        simp [MemoryStore.find?_put]
      · have hperform : Scene.upkeep.perform (.commit (EntityKey.kind κ) (EntityKey.text key) version
            (Entity.stored record)) t₂ = (false, t₂) := by
          simp [Scene.upkeep, Scene.perform, MemoryStore.commit_eq, hv]
        rw [hperform]
        refine ⟨.inl rfl, ?_⟩
        exact transactFrom_tends hwrite left (overtaken + 1) t₂ (hst₁.trans ht₂)

/-- **A transaction tends the store if every decision of it does.** -/
theorem transact_tends {s : MemoryStore}
    (hwrite : ∀ t : MemoryStore, s.Grows t → ∀ version record value,
      attempt key mutate (t.find? (EntityKey.kind κ) (EntityKey.text key)) =
        .write version record value →
      t.Upkeep ⟨EntityKey.kind κ, EntityKey.text key, Entity.stored record⟩)
    (answers : (r : Request) → r.Reply) :
    (transact key mutate).Meets Scene.upkeep (fun r u => Finished key mutate r u.records)
      ⟨s, answers⟩ :=
  transactFrom_tends hwrite maxTransactionAttempts 0 ⟨s, answers⟩ (.refl s)

/-- A change wants to write what its rule makes of the record that is there. -/
theorem attempt_change_eq_write [LawfulKey κ] {rule : ρ → Option ρ} {key : κ} {s : MemoryStore}
    {version : Nat} {record : ρ} {value : Change × Option ρ}
    (h : attempt key (Change.mutation rule) (s.find? (EntityKey.kind κ) (EntityKey.text key)) =
      .write version record value) :
    ∃ r, s.read ρ key = .ok (some r) ∧ rule r = some record ∧ Entity.key record = key := by
  obtain ⟨current, hdecode, hmutate, hchanged, hkey⟩ := attempt_eq_write.1 h
  have hread := read_eq_ok.2 ⟨_, hdecode⟩
  cases current with
  | none => cases hmutate
  | some r =>
    cases hr : rule r with
    | none =>
      simp only [Change.mutation, hr, Prod.mk.injEq] at hmutate
      exact (hchanged hmutate.1.symm).elim
    | some r' =>
      simp only [Change.mutation, hr, Prod.mk.injEq, Option.some.injEq] at hmutate
      obtain ⟨rfl, -⟩ := hmutate
      exact ⟨r, hread, hr, EntityKey.eq_of_components hkey⟩

/-- A change tends the store if its rule does. -/
theorem change_tends [LawfulKey κ] {rule : ρ → Option ρ} {s : MemoryStore} (context : Context)
    (key : κ)
    (hrule : ∀ t : MemoryStore, s.Grows t → ∀ r r' : ρ, t.read ρ key = .ok (some r) →
      rule r = some r' → Entity.key r' = key →
      t.Upkeep ⟨EntityKey.kind κ, EntityKey.text key, Entity.stored r'⟩) :
    (Service.change context key rule).Tends s := by
  have hwrite : ∀ t : MemoryStore, s.Grows t → ∀ version record value,
      attempt key (Change.mutation rule) (t.find? (EntityKey.kind κ) (EntityKey.text key)) =
        .write version record value →
      t.Upkeep ⟨EntityKey.kind κ, EntityKey.text key, Entity.stored record⟩ := by
    intro t hst version record value hdecision
    obtain ⟨r, hread, hr, hkey⟩ := attempt_change_eq_write hdecision
    exact hrule t hst r record hread hr hkey
  have htransact : (transact key (Change.mutation rule)).Tends s :=
    fun answers => (transact_tends hwrite answers).mono fun _ _ _ => trivial
  exact (htransact.within context).bind fun _ t _ =>
    (WritesNothing.pure _).tends t

end Transactions

end Service

end FleetReconciler
