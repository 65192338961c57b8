import FleetReconciler.Proofs.Solo

/-!
# No update is lost

Any number of transactions, each with a mutation of its own, and any number of puts work on one
store, in any order of their steps. What they leave is what the puts and the writing transactions
leave one after another, in the order in which they wrote.

* `Transaction` — a transaction on a record of any type, and the service that it runs;
* `Transaction.Stores` — a commit that stores what the mutation makes of the record stored there,
  and nothing else;
* `replay` — the writers of a history one after another, each alone;
* `no_update_is_lost` — **every write has its effect, and every interleaving that of its replay**.
-/

namespace FleetReconciler

/-- A transaction on the record with a key: its mutation may be any function. -/
structure Transaction : Type 1 where
  {ρ κ β : Type}
  [entity : Entity ρ κ]
  [decEq : DecidableEq ρ]
  key : κ
  mutate : Option ρ → Option ρ × β

attribute [instance] Transaction.entity Transaction.decEq

namespace Transaction

/-- The service of a transaction, which reports whether it wrote. -/
def service (t : Transaction) : Service Bool := do
  return (← Service.transact t.key t.mutate).wrote

/-- A commit stores what the mutation makes of the record that is stored immediately before it, or
of no record: another record with the key of the transaction. It is found there with the next
version, and all else is found as before. -/
def Stores (t : Transaction) (e : Exchange) : Prop :=
  ∃ version current record value,
    Service.decodeStored (EntityKey.kind t.κ) (EntityKey.text t.key)
      (e.records.find? (EntityKey.kind t.κ) (EntityKey.text t.key)) = .ok (version, current) ∧
    t.mutate current = (some record, value) ∧ some record ≠ current ∧
    EntityKey.components (Entity.key record) = EntityKey.components t.key ∧
    e = Service.committed t.key e.records version record ∧
    ∀ kind id, e.after.find? kind id =
      if kind = EntityKey.kind t.κ ∧ id = EntityKey.text t.key then
        some ⟨version + 1, Entity.stored record⟩
      else e.records.find? kind id

theorem stores_committed (t : Transaction) {s : MemoryStore} {version : Nat} {record : t.ρ}
    {value : t.β}
    (h : Service.attempt t.key t.mutate (s.find? (EntityKey.kind t.κ) (EntityKey.text t.key)) =
      .write version record value) :
    t.Stores (Service.committed t.key s version record) := by
  obtain ⟨current, hdecode, hmutate, hchanged, hkey⟩ := Service.attempt_eq_write.1 h
  refine ⟨version, current, record, value, hdecode, hmutate, hchanged, hkey, rfl, ?_⟩
  -- the version that was read is the one that the write raises
  obtain rfl := Service.version_of_attempt h
  exact fun kind id => MemoryStore.find?_put s _ kind _ id _

/-- A transaction that runs alone stores what one among others stores on the same records. -/
theorem serve_of_stores {σ : Type} (c : Cloud σ) {t : Transaction} {e : Exchange} (h : t.Stores e)
    {s : Session σ} (hm : s.InMemory) (hs : e.records = s.records) :
    (s.serve c t.service).2 = s.withRecords e.after := by
  obtain ⟨version, current, record, value, hdecode, hmutate, hchanged, hkey, he, -⟩ := h
  have hattempt := Service.attempt_eq_write.2 ⟨current, hdecode, hmutate, hchanged, hkey⟩
  have hserve := Session.serve_transact c t.key t.mutate hm
  rw [← hs, hattempt] at hserve
  unfold Session.serve service at *
  rw [Service.run_bind, hserve, he]
  rfl

end Transaction

/-! ## Replay -/

section Replay

variable {σ : Type} (c : Cloud σ) (ts : List Transaction)

/-- Does again what an entry of a history wrote: a put as it is, a transaction from its start. -/
def replayOne (s : Session σ) : Happening → Session σ
  | .put _ r => s.withRecords (s.records.apply r.write)
  | .served place e =>
    match e.write?, ts[place]? with
    | some _, some t => (s.serve c t.service).2
    | _, _ => s

/-- The puts and the writing transactions of a history one after another, each of them alone. -/
def replay (history : List Happening) (s : Session σ) : Session σ :=
  history.foldl (replayOne c ts) s

end Replay

variable {σ : Type} {c : Cloud σ} {ts : List Transaction}

/-- Deeds of the place of a transaction: it writes at most once, and stores what it should. -/
def WritesOnce (ts : List Transaction) (place : Nat) (deeds : List Exchange) : Prop :=
  deeds = [] ∨ ∃ t e, ts[place]? = some t ∧ t.Stores e ∧ deeds = [e]

/-- The number of writes that the end of a transaction reports. -/
def reportedWrites : Except Failure Bool → Nat
  | .ok true => 1
  | _ => 0

theorem service_meets {place : Nat} {t : Transaction} (ht : ts[place]? = some t) {w : World σ}
    (hm : w.session.InMemory) (hd : w.deeds place = []) :
    t.service.MeetsAt c place (WritesOnce ts)
      (fun result w => (w.deeds place).length = reportedWrites result) w := by
  have hstores : ∀ s version record value,
      Service.attempt t.key t.mutate (s.find? (EntityKey.kind t.κ) (EntityKey.text t.key)) =
        .write version record value →
      WritesOnce ts place (w.deeds place ++ [Service.committed t.key s version record]) :=
    fun s version record value h => .inr ⟨t, _, ht, t.stores_committed h, by rw [hd]; rfl⟩
  refine (Service.transact_meets t.key t.mutate hm (.inl hd) hstores).bind ?_ ?_
  · intro v w' hend w'' hw
    obtain ⟨-, houtcome⟩ := hend.later hw
    generalize hds : w''.deeds place = ds at houtcome ⊢
    cases houtcome with
    | stopped tries before decision grows =>
      obtain ⟨version, current, -, -, rfl⟩ := Service.attempt_eq_stop_ok.1 decision
      simp [hd, reportedWrites]
    | wrote tries before decision grows => simp [hd, reportedWrites]
  · intro f w' hend
    obtain ⟨-, houtcome⟩ := hend
    generalize hds : w'.deeds place = ds at houtcome ⊢
    cases houtcome with
    | stopped tries before decision grows => simp [hd, reportedWrites]
    | gaveUp before => simp [hd, reportedWrites]

/-- A replay leads to the records to which the history leads. -/
theorem records_replay {history : List Happening} {s : Session σ} {t : MemoryStore}
    (hm : s.InMemory) (hf : Follows s.records history t)
    (hstores : ∀ place e, .served place e ∈ history → e.write?.isSome →
      ∃ t, ts[place]? = some t ∧ t.Stores e) :
    (replay c ts history s).records = t := by
  induction history generalizing s with
  | nil => exact hf.symm
  | cons h history ih =>
    obtain ⟨hrecords, hf⟩ := hf
    have hone : replayOne c ts s h = s.withRecords h.after ∨
        (replayOne c ts s h = s ∧ h.after = s.records) := by
      cases h with
      | put records r =>
        obtain rfl : records = s.records := hrecords
        exact .inl rfl
      | served place e =>
        cases hw : e.write? with
        | none =>
          exact .inr ⟨by simp [replayOne, hw],
            by simp [Happening.after, Happening.write?, hw, hrecords]⟩
        | some write =>
          obtain ⟨t, ht, hstore⟩ := hstores place e List.mem_cons_self (by simp [hw])
          refine .inl ?_
          simp only [replayOne, hw, ht]
          exact Transaction.serve_of_stores c hstore hm hrecords
    have hrest : ∀ place e, .served place e ∈ history → e.write?.isSome →
        ∃ t, ts[place]? = some t ∧ t.Stores e :=
      fun place e he => hstores place e (List.mem_cons_of_mem _ he)
    show (replay c ts history (replayOne c ts s h)).records = t
    rcases hone with hone | ⟨hone, hafter⟩
    · rw [hone]
      exact ih (hm.withRecords _) (by simpa using hf) hrest
    · rw [hone]
      exact ih hm (hafter ▸ hf) hrest

/-- **No update is lost.** Any number of transactions with any mutations and any puts take their
steps in any order. Every entry of the history meets the records that the entry before it has left,
so the records at the end are the first ones with all writes applied in order. Every commit that
goes through stores what its mutation makes of the record stored immediately before, and changes
nothing else; the records at the end are those of the puts and the writing transactions one after
another in the order of their writes. A transaction that reports a write has made one, and one that
reports none or fails has not written. -/
theorem no_update_is_lost (c : Cloud σ) (session : Session σ) (store : MemoryStore)
    (ts : List Transaction) (turns : List Turn) :
    let s := (Crowd.start session store (ts.map Transaction.service)).run c turns
    (Follows store s.world.history s.world.records ∧
      s.world.records =
        (s.world.history.filterMap Happening.write?).foldl MemoryStore.apply store) ∧
    (∀ place e, .served place e ∈ s.world.history → e.write?.isSome →
      ∃ t, ts[place]? = some t ∧ t.Stores e) ∧
    s.world.records =
      (replay c ts s.world.history { session with backend := .memory store }).records ∧
    (∀ place, (s.world.deeds place).length ≤ 1) ∧
    (∀ place, s.services[place]? = some (.done true) →
      ∃ t e, ts[place]? = some t ∧ s.world.deeds place = [e] ∧ t.Stores e) ∧
    (∀ place, s.services[place]? = some (.done false) → s.world.deeds place = []) ∧
    (∀ place f, s.services[place]? = some (.fail f) → s.world.deeds place = []) := by
  intro s
  have hstart : (Crowd.start session store (ts.map Transaction.service)).AllMeet
      (.keeping (WritesOnce ts)) c
      (fun place result w => (w.deeds place).length = reportedWrites result) := by
    intro place service hservice
    obtain ⟨t, ht, rfl⟩ : ∃ t, ts[place]? = some t ∧ t.service = service := by
      simpa [Crowd.start] using hservice
    exact service_meets ht ⟨store, rfl⟩ rfl
  have honce : ∀ place, WritesOnce ts place (s.world.deeds place) := fun place =>
    Crowd.keeping_run turns hstart (.inl rfl)
  have hstores : ∀ place e, .served place e ∈ s.world.history → e.write?.isSome →
      ∃ t, ts[place]? = some t ∧ t.Stores e := by
    intro place e he hw
    have hmem := World.mem_deeds he hw
    rcases honce place with hnone | ⟨t, e', ht, hstore, hone⟩
    · simp [hnone] at hmem
    · rw [hone, List.mem_singleton] at hmem
      exact ⟨t, ht, hmem ▸ hstore⟩
  have hfollows : Follows store s.world.history s.world.records :=
    Crowd.follows_run c turns (Crowd.follows_start session store _)
  have hreplay : (replay c ts s.world.history { session with backend := .memory store }).records =
      s.world.records := records_replay ⟨store, rfl⟩ hfollows hstores
  have hmeet := Crowd.run_meets (Crowd.Accord.keeping_admits (WritesOnce ts) c) turns hstart
  -- the number of deeds is that of the writes that are reported
  have hend : ∀ place result, s.services[place]? = some (.done result) →
      (s.world.deeds place).length = reportedWrites (.ok result) := fun place result hplace =>
    hmeet place _ hplace s.world (.refl place _)
  refine ⟨⟨hfollows, hfollows.eq_foldl⟩, hstores, hreplay.symm, fun place => ?_,
    fun place hplace => ?_, fun place hplace => ?_, fun place f hplace => ?_⟩
  · rcases honce place with hnone | ⟨t, e, -, -, hone⟩
    · simp [hnone]
    · simp [hone]
  · have hlength := hend place true hplace
    rcases honce place with hnone | ⟨t, e, ht, hstore, hone⟩
    · rw [hnone] at hlength
      cases hlength
    · exact ⟨t, e, ht, hone, hstore⟩
  · exact List.length_eq_zero_iff.1 (hend place false hplace)
  · have hlength : (s.world.deeds place).length = 0 :=
      hmeet place _ hplace s.world (.refl place _)
    exact List.length_eq_zero_iff.1 hlength

end FleetReconciler
