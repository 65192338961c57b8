import FleetReconciler.Proofs.Transaction

/-!
# Services alone

A service that runs alone has every request served at once, so its run is a function of the session.
These are the equations by which such runs are computed.

* `Service.run_bind` — a run of one service after another;
* `Service.run_keeps`, `Service.run_map` — what every request keeps, and a state of which a request
  sees a part only;
* `Service.run_transact_saving` — **a transaction alone** decides once, on the record that is stored,
  and a write of it goes through and is saved;
* `Service.run_transact`, `Session.serve_transact` — the same where a save succeeds.
-/

namespace FleetReconciler

namespace Service

variable {σ α β : Type} (perform : (r : Request) → σ → r.Reply × σ)

@[simp]
theorem run_done (a : α) (s : σ) : (done a).run perform s = (.ok a, s) := rfl

@[simp]
theorem run_fail (f : Failure) (s : σ) : (fail f : Service α).run perform s = (.error f, s) := rfl

@[simp]
theorem run_ask (r : Request) (next : r.Reply → Service α) (s : σ) :
    (ask r next).run perform s = (next (perform r s).1).run perform (perform r s).2 := rfl

theorem run_bind (service : Service α) (k : α → Service β) (s : σ) :
    (service >>= k).run perform s =
      match service.run perform s with
      | (.ok a, t) => (k a).run perform t
      | (.error f, t) => (.error f, t) := by
  induction service generalizing s with
  | done a => rfl
  | fail f => rfl
  | ask r next ih => exact ih _ _

theorem run_within (context : Context) (service : Service α) (s : σ) :
    (service.within context).run perform s =
      (inContext context (service.run perform s).1, (service.run perform s).2) := by
  induction service generalizing s with
  | done a => rfl
  | fail f => rfl
  | ask r next ih => exact ih _ _

@[simp]
theorem run_lift (r : Except Failure α) (s : σ) : (lift r).run perform s = (r, s) := by
  cases r <;> rfl

variable {perform} in
/-- What every request keeps is kept by a run. -/
theorem run_keeps {P : σ → Prop} (hperform : ∀ r s, P s → P (perform r s).2) (service : Service α)
    {s : σ} (hs : P s) : P (service.run perform s).2 := by
  induction service generalizing s with
  | done a => exact hs
  | fail f => exact hs
  | ask r next ih => exact ih _ (hperform r s hs)

variable {perform} in
/-- A part of the state that the requests of the part serve runs as the whole does. -/
theorem run_map {τ : Type} {perform' : (r : Request) → τ → r.Reply × τ} (part : σ → τ)
    (hpart : ∀ r s, perform' r (part s) = ((perform r s).1, part (perform r s).2))
    (service : Service α) (s : σ) :
    service.run perform' (part s) =
      ((service.run perform s).1, part (service.run perform s).2) := by
  induction service generalizing s with
  | done a => rfl
  | fail f => rfl
  | ask r next ih =>
    simp only [run_ask, hpart]
    exact ih _ _

/-- **A transaction alone** decides once, writes what it wants to write, and saves. -/
theorem run_transact_saving {ρ κ : Type} [Entity ρ κ] [DecidableEq ρ] (key : κ)
    (mutate : Option ρ → Option ρ × β) (s : σ) (records : MemoryStore) (written : ρ → σ)
    (hread : perform (.read (.transaction 0) (EntityKey.kind κ) (EntityKey.text key)) s =
      (.ok (records.find? (EntityKey.kind κ) (EntityKey.text key)), s))
    (hcommit : ∀ record, EntityKey.components (Entity.key record) = EntityKey.components key →
      perform (.commit (EntityKey.kind κ) (EntityKey.text key)
        (records.version (EntityKey.kind κ) (EntityKey.text key)) (Entity.stored record)) s =
          (true, written record)) :
    (transact key mutate).run perform s =
      match attempt key mutate (records.find? (EntityKey.kind κ) (EntityKey.text key)) with
      | .stop r => (r, s)
      | .write _ record value =>
        let (saved, t) := perform .save (written record)
        (saved.map fun _ => ⟨value, true⟩, t) := by
  unfold transact
  rw [show maxTransactionAttempts = 3 + 1 from rfl, transactFrom_succ]
  simp only [request, bind_ask, bind_done, run_ask, hread, lift_ok_bind]
  cases hdecision : attempt key mutate
      (records.find? (EntityKey.kind κ) (EntityKey.text key)) with
  | stop r => simp
  | write version record value =>
    -- nobody has written since, so the version is still the one that was read
    have hversion := version_of_attempt hdecision
    subst hversion
    obtain ⟨_, -, -, -, hkey⟩ := attempt_eq_write.1 hdecision
    simp only [run_ask, hcommit record hkey, if_true]
    cases perform .save (written record) with
    | mk saved t => cases saved <;> rfl

/-- Where a save succeeds and changes nothing, what a transaction wants to write is written. -/
theorem run_transact {ρ κ : Type} [Entity ρ κ] [DecidableEq ρ] (key : κ)
    (mutate : Option ρ → Option ρ × β) (s : σ) (records : MemoryStore) (written : ρ → σ)
    (hread : perform (.read (.transaction 0) (EntityKey.kind κ) (EntityKey.text key)) s =
      (.ok (records.find? (EntityKey.kind κ) (EntityKey.text key)), s))
    (hcommit : ∀ record, perform (.commit (EntityKey.kind κ) (EntityKey.text key)
      (records.version (EntityKey.kind κ) (EntityKey.text key)) (Entity.stored record)) s =
        (true, written record))
    (hsave : ∀ record, perform .save (written record) = (.ok (), written record)) :
    (transact key mutate).run perform s =
      match attempt key mutate (records.find? (EntityKey.kind κ) (EntityKey.text key)) with
      | .stop r => (r, s)
      | .write _ record value => (.ok ⟨value, true⟩, written record) := by
  rw [run_transact_saving perform key mutate s records written hread fun record _ => hcommit record]
  cases attempt key mutate (records.find? (EntityKey.kind κ) (EntityKey.text key)) with
  | stop r => rfl
  | write version record value =>
    simp only [hsave]
    rfl

end Service

namespace Session

variable {σ ρ κ β : Type} [Entity ρ κ] [DecidableEq ρ]

open Service

theorem serve_transact (c : Cloud σ) (key : κ) (mutate : Option ρ → Option ρ × β) {s : Session σ}
    (hm : s.InMemory) :
    s.serve c (transact key mutate) =
      match attempt key mutate (s.records.find? (EntityKey.kind κ) (EntityKey.text key)) with
      | .stop r => (r, s)
      | .write _ record value =>
        (.ok ⟨value, true⟩,
          s.withRecords (s.records.put (EntityKey.kind κ) (EntityKey.text key)
            (Entity.stored record))) := by
  let written (record : ρ) : Session σ := s.withRecords
    (s.records.put (EntityKey.kind κ) (EntityKey.text key) (Entity.stored record))
  have hcommit : ∀ record, perform c (.commit (EntityKey.kind κ) (EntityKey.text key)
      (s.records.version (EntityKey.kind κ) (EntityKey.text key)) (Entity.stored record)) s =
        (true, written record) := by
    intro record
    simp [perform, MemoryStore.commit_eq, written]
  have hsave : ∀ record, perform c .save (written record) = (.ok (), written record) := by
    intro record
    have hm' : (written record).InMemory := hm.withRecords _
    exact hm'.save
  have hrun := run_transact (perform c) key mutate s s.records written rfl hcommit hsave
  rw [Session.serve, hrun]
  cases attempt key mutate (s.records.find? (EntityKey.kind κ) (EntityKey.text key)) <;> rfl

end Session

end FleetReconciler
