import FleetReconciler.Proofs.Solo
import FleetReconciler.Proofs.SoundStore

/-!
# A transaction against its rivals

Rivals may write between the reading of a transaction and its commit, in every attempt anew and
whatever they like. Which of them write the record of the transaction decides, together with what the
mutation makes of the record that each attempt finds, how the transaction ends. The mutation may
remember something from one attempt to the next, so it also shows how often it was applied.

* `World.contested` — a request is served, and the rivals of that moment write;
* `Contest` — a transaction with the writes of its rivals, attempt by attempt;
* `Contest.Lost`, `Contest.Ending`, `Contest.Outcome` — an attempt that was overtaken, an attempt that
  ends the transaction, and the whole of it;
* `Contest.run_transactWith`, `Contest.run_ofStore` — **every run has an outcome**;
* `contested_transaction` — what that says where every reading succeeds.
-/

namespace FleetReconciler

/-! ## Rivals -/

namespace MemoryStore

/-- The store after some records were written one after another. -/
def fill (s : MemoryStore) (records : List AnyRecord) : MemoryStore :=
  records.foldl (fun s r => s.apply r.write) s

/-- The store when an attempt begins: the rivals of the earlier attempts have written. -/
def underRivals (s : MemoryStore) (rivals : Nat → List AnyRecord) : Nat → MemoryStore
  | 0 => s
  | n + 1 => (s.underRivals rivals n).fill (rivals n)

theorem grows_fill (s : MemoryStore) (records : List AnyRecord) : s.Grows (s.fill records) := by
  induction records generalizing s with
  | nil => exact .refl s
  | cons r records ih => exact (s.grows_put _ _ _).trans (ih (s.apply r.write))

/-- Every write of a record counts, also one of the value that is there. -/
theorem version_fill (s : MemoryStore) (records : List AnyRecord) (kind : Kind) (id : String) :
    (s.fill records).version kind id =
      s.version kind id + records.countP fun r => r.write.kind = kind ∧ r.write.id = id := by
  induction records generalizing s with
  | nil => rfl
  | cons r records ih =>
    have hone := s.version_put r.write.kind kind r.write.id id r.write.value
    have hswap : (kind = r.write.kind ∧ id = r.write.id) ↔
        (r.write.kind = kind ∧ r.write.id = id) := and_congr eq_comm eq_comm
    simp only [fill, List.foldl_cons, List.countP_cons, decide_eq_true_eq] at ih ⊢
    rw [ih, apply, hone, if_congr hswap rfl rfl]
    omega

end MemoryStore

/-- What rivals write after a request: they write between the reading and the commit of an attempt. -/
def Request.rivals (rivals : Nat → List AnyRecord) : Request → List AnyRecord
  | .read (.transaction attempt) _ _ => rivals attempt
  | _ => []

/-- The store that the reading of a transaction saw. -/
def Exchange.reading? : Exchange → Option MemoryStore
  | ⟨records, .read (.transaction _) _ _, _⟩ => some records
  | _ => none

/-- The exchange that a happening is, if it is no put. -/
def Happening.exchange? : Happening → Option Exchange
  | served _ e => some e
  | put .. => none

namespace World

variable {σ : Type}

/-- Serves a request of the only service, after which its rivals write. -/
def contested (c : Cloud σ) (rivals : Nat → List AnyRecord) (r : Request) (w : World σ) :
    r.Reply × World σ :=
  let (reply, w) := w.serve c 0 r
  (reply, (r.rivals rivals).foldl (fun w x => w.put x) w)

/-- What was served, in order. -/
def exchanges (w : World σ) : List Exchange := w.history.filterMap Happening.exchange?

/-- The stores that the readings of transactions saw, in order. -/
def readings (w : World σ) : List MemoryStore := w.exchanges.filterMap Exchange.reading?

/-- What the services wrote, in order. -/
def writes (w : World σ) : List Write := w.exchanges.filterMap Exchange.write?

@[simp]
theorem exchanges_serve (c : Cloud σ) (place : Nat) (r : Request) (w : World σ) :
    (w.serve c place r).2.exchanges = w.exchanges ++ [w.session.exchange c r] := by
  simp [exchanges, serve, Happening.exchange?]

@[simp]
theorem exchanges_puts (records : List AnyRecord) (w : World σ) :
    (records.foldl (fun w x => w.put x) w).exchanges = w.exchanges := by
  induction records generalizing w with
  | nil => rfl
  | cons r records ih =>
    rw [List.foldl_cons, ih]
    simp [exchanges, put, Happening.exchange?]

theorem session_puts (records : List AnyRecord) (w : World σ) :
    (records.foldl (fun w x => w.put x) w).session =
      w.session.withRecords (w.records.fill records) := by
  induction records generalizing w with
  | nil => exact w.session.withRecords_self.symm
  | cons r records ih =>
    rw [List.foldl_cons, ih, records_put]
    exact Session.withRecords_withRecords ..

@[simp]
theorem exchanges_contested (c : Cloud σ) (rivals : Nat → List AnyRecord) (r : Request)
    (w : World σ) :
    (w.contested c rivals r).2.exchanges = w.exchanges ++ [w.session.exchange c r] :=
  (exchanges_puts ..).trans (exchanges_serve ..)

theorem readings_contested (c : Cloud σ) (rivals : Nat → List AnyRecord) (r : Request)
    (w : World σ) :
    (w.contested c rivals r).2.readings =
      w.readings ++ (w.session.exchange c r).reading?.toList := by
  rw [readings, exchanges_contested, List.filterMap_append, readings, List.filterMap_cons]
  cases (w.session.exchange c r).reading? <;> rfl

theorem writes_contested (c : Cloud σ) (rivals : Nat → List AnyRecord) (r : Request)
    (w : World σ) :
    (w.contested c rivals r).2.writes = w.writes ++ (w.session.exchange c r).write?.toList := by
  rw [writes, exchanges_contested, List.filterMap_append, writes, List.filterMap_cons]
  cases (w.session.exchange c r).write? <;> rfl

end World

/-! ## Contests -/

/-- A transaction and what its rivals write after the reading of each attempt. -/
structure Contest (ρ β γ : Type) {κ : Type} [Entity ρ κ] where
  key : κ
  mutate : γ → Option ρ → (Option ρ × β) × γ
  /-- What the mutation remembers before the first attempt. -/
  memory : γ
  /-- The store before the first attempt. -/
  store : MemoryStore
  rivals : Nat → List AnyRecord

namespace Contest

open Service

section Definitions

variable {ρ κ β γ : Type} [Entity ρ κ] (t : Contest ρ β γ)

/-- The store when an attempt begins, as long as the transaction has not written. -/
def storeAt (n : Nat) : MemoryStore := t.store.underRivals t.rivals n

/-- What an attempt reads. -/
def reading (n : Nat) : Except Failure (Option ρ) := (t.storeAt n).read ρ t.key

/-- What the mutation remembers when an attempt begins: it was applied to each of the readings. -/
def memoryAt : Nat → γ
  | 0 => t.memory
  | n + 1 => remembered t.mutate (memoryAt n) (t.reading n)

/-- In an attempt the mutation finds `current`, and gives `next` and `value`. -/
def Calls (n : Nat) (current next : Option ρ) (value : β) : Prop :=
  t.reading n = .ok current ∧ (t.mutate (t.memoryAt n) current).1 = (next, value)

/-- In an attempt the mutation gives another record with the key of the transaction. -/
def Offers (n : Nat) (r : ρ) (value : β) : Prop :=
  ∃ current, t.Calls n current (some r) value ∧ some r ≠ current ∧ Entity.key r = t.key

/-- A rival writes the record of the transaction before the commit of an attempt, whatever it
writes. -/
def Overtaken (n : Nat) : Prop :=
  ∃ r ∈ t.rivals n, r.write.kind = EntityKey.kind κ ∧ r.write.id = EntityKey.text t.key

/-- An attempt changes the record and is overtaken. -/
def Lost (n : Nat) : Prop := (∃ r value, t.Offers n r value) ∧ t.Overtaken n

/-- How an attempt ends the transaction: the result, and what it writes. -/
inductive Ending (n : Nat) : Except Failure (Committed β) → List Write → Prop
  /-- What is stored is no record of the type. -/
  | unreadable {f : Failure} (failed : t.reading n = .error f) : Ending n (.error f) []
  /-- The mutation leaves the record as it is. -/
  | unchanged {current : Option ρ} {value : β} (call : t.Calls n current current value) :
      Ending n (.ok ⟨value, false⟩) []
  /-- The mutation takes the record away. -/
  | removed {r : ρ} {value : β} (call : t.Calls n (some r) none value) :
      Ending n (.error (.of (.removal (EntityKey.kind κ) (EntityKey.text t.key)))) []
  /-- The mutation gives another record with another key. -/
  | rekeyed {current : Option ρ} {r : ρ} {value : β} (call : t.Calls n current (some r) value)
      (changed : some r ≠ current) (other : Entity.key r ≠ t.key) :
      Ending n (.error (.of (.store (.keyMismatch (EntityKey.kind κ) (EntityKey.text t.key)
        (EntityKey.text (Entity.key r)))))) []
  /-- The mutation changes the record, and no rival has written it before the commit. -/
  | wrote {r : ρ} {value : β} (offer : t.Offers n r value) (first : ¬ t.Overtaken n) :
      Ending n (.ok ⟨value, true⟩)
        [⟨EntityKey.kind κ, EntityKey.text t.key, Entity.stored r⟩]

/-- How the transaction goes: how many attempts it makes, its result, and what it writes. -/
inductive Outcome : Nat → Except Failure (Committed β) → List Write → Prop
  /-- An attempt ends it; each one before it was overtaken. -/
  | ended {n : Nat} {result : Except Failure (Committed β)} {writes : List Write}
      (tries : n < maxTransactionAttempts) (before : ∀ m < n, t.Lost m)
      (ending : t.Ending n result writes) : Outcome (n + 1) result writes
  /-- All attempts were overtaken. -/
  | contention (before : ∀ m < maxTransactionAttempts, t.Lost m) :
      Outcome maxTransactionAttempts (.error (.of (.store (.contention (EntityKey.kind κ)
        (EntityKey.text t.key) maxTransactionAttempts)))) []

/-- What is found after a transaction that began on a session: each attempt has read the store of its
moment, the mutation was applied to each reading, and nothing but the writes of the transaction was
added to what the rivals have left. -/
structure Ran {σ : Type} (s : Session σ) (attempts : Nat) (result : Except Failure (Committed β))
    (memory : γ) (written : List Write) (w : World σ) : Prop where
  outcome : t.Outcome attempts result written
  memory : memory = t.memoryAt attempts
  readings : w.readings = (List.range attempts).map t.storeAt
  writes : w.writes = written
  session : w.session = s.withRecords (written.foldl MemoryStore.apply (t.storeAt attempts))

/-- What is found where an attempt begins, or between its reading and its commit. -/
structure Begun {σ : Type} (s : Session σ) (n : Nat) (w : World σ) : Prop where
  readings : w.readings = (List.range n).map t.storeAt
  writes : w.writes = []
  session : w.session = s.withRecords (t.storeAt n)

end Definitions

/-! ## Attempts -/

section Attempts

variable {ρ κ β γ : Type} [Entity ρ κ] {t : Contest ρ β γ} {n : Nat}

/-- A rival that writes the record raises its version. -/
theorem version_storeAt_succ :
    (t.storeAt (n + 1)).version (EntityKey.kind κ) (EntityKey.text t.key) =
        (t.storeAt n).version (EntityKey.kind κ) (EntityKey.text t.key) ↔
      ¬ t.Overtaken n := by
  show ((t.storeAt n).fill (t.rivals n)).version _ _ = _ ↔ _
  rw [MemoryStore.version_fill, Nat.add_eq_left, List.countP_eq_zero]
  simp [Overtaken]

/-- What no rival has written is still what the attempt has read. -/
theorem reading_succ_of_first (h : ¬ t.Overtaken n) : t.reading (n + 1) = t.reading n := by
  have hgrows : (t.storeAt n).Grows (t.storeAt (n + 1)) := MemoryStore.grows_fill _ _
  unfold reading MemoryStore.read
  rw [hgrows.find?_eq (version_storeAt_succ.2 h)]

/-- An attempt that offers a record ends the transaction only by writing it, before any rival. -/
theorem Offers.ending_eq {r : ρ} {value : β} {result : Except Failure (Committed β)}
    {writes : List Write} (h : t.Offers n r value) (hend : t.Ending n result writes) :
    ¬ t.Overtaken n ∧ result = .ok ⟨value, true⟩ ∧
      writes = [⟨EntityKey.kind κ, EntityKey.text t.key, Entity.stored r⟩] := by
  obtain ⟨current, ⟨hread, hcall⟩, hchanged, hkey⟩ := h
  cases hend with
  | unreadable failed => exact nomatch hread.symm.trans failed
  | unchanged call =>
    obtain ⟨hread', hcall'⟩ := call
    cases hread.symm.trans hread'
    exact (hchanged (congrArg Prod.fst (hcall.symm.trans hcall'))).elim
  | removed call =>
    obtain ⟨hread', hcall'⟩ := call
    cases hread.symm.trans hread'
    cases hcall.symm.trans hcall'
  | rekeyed call _ other =>
    obtain ⟨hread', hcall'⟩ := call
    cases hread.symm.trans hread'
    cases hcall.symm.trans hcall'
    exact (other hkey).elim
  | wrote offer first =>
    obtain ⟨current', ⟨hread', hcall'⟩, -, -⟩ := offer
    cases hread.symm.trans hread'
    cases hcall.symm.trans hcall'
    exact ⟨first, rfl, rfl⟩

theorem Lost.not_ending {result : Except Failure (Committed β)} {writes : List Write}
    (h : t.Lost n) : ¬ t.Ending n result writes := by
  obtain ⟨⟨r, value, hoffer⟩, hover⟩ := h
  exact fun hend => (hoffer.ending_eq hend).1 hover

variable [DecidableEq ρ]

/-- The decision of an attempt. -/
def decision (t : Contest ρ β γ) (n : Nat) : Attempt ρ β :=
  attempt t.key (fun current => (t.mutate (t.memoryAt n) current).1)
    ((t.storeAt n).find? (EntityKey.kind κ) (EntityKey.text t.key))

theorem ending_of_stop {result : Except Failure (Committed β)}
    (h : t.decision n = .stop result) : t.Ending n result [] := by
  unfold decision attempt at h
  cases hdecode : decodeStored (ρ := ρ) (EntityKey.kind κ) (EntityKey.text t.key)
      ((t.storeAt n).find? (EntityKey.kind κ) (EntityKey.text t.key)) with
  | error f =>
    simp only [hdecode, Attempt.stop.injEq] at h
    subst h
    refine .unreadable ?_
    rw [reading, MemoryStore.read, hdecode]
    rfl
  | ok found =>
    obtain ⟨version, current⟩ := found
    have hread : t.reading n = .ok current := read_eq_ok.2 ⟨version, hdecode⟩
    cases hcall : (t.mutate (t.memoryAt n) current).1 with
    | mk next value =>
      simp only [hdecode, hcall, nextRecord] at h
      by_cases hsame : next = current
      · simp only [if_pos hsame, Attempt.stop.injEq] at h
        subst h hsame
        exact .unchanged ⟨hread, hcall⟩
      · rw [if_neg hsame] at h
        cases next with
        | none =>
          simp only [Attempt.stop.injEq] at h
          subst h
          cases current with
          | none => exact (hsame rfl).elim
          | some r => exact .removed ⟨hread, hcall⟩
        | some r =>
          by_cases hkey : EntityKey.components (Entity.key r) = EntityKey.components t.key
          · simp [hkey] at h
          · simp only [if_neg hkey, Attempt.stop.injEq] at h
            subst h
            exact .rekeyed ⟨hread, hcall⟩ hsame fun heq => hkey (congrArg _ heq)

theorem offers_of_write [LawfulKey κ] {version : Nat} {r : ρ} {value : β}
    (h : t.decision n = .write version r value) :
    t.Offers n r value ∧
      version = (t.storeAt n).version (EntityKey.kind κ) (EntityKey.text t.key) := by
  refine ⟨?_, version_of_attempt h⟩
  obtain ⟨current, hdecode, hcall, hchanged, hkey⟩ := attempt_eq_write.1 h
  exact ⟨current, ⟨read_eq_ok.2 ⟨version, hdecode⟩, hcall⟩, hchanged,
    EntityKey.eq_of_components hkey⟩

end Attempts

/-! ## Runs -/

section Runs

variable {ρ κ β γ σ : Type} [Entity ρ κ] {t : Contest ρ β γ} {s : Session σ} {n : Nat} {w : World σ}

theorem Begun.records_eq (h : t.Begun s n w) : w.session.records = t.storeAt n := by
  rw [h.session, Session.records_withRecords]

/-- The reading of an attempt sees the store of its moment; then its rivals write. -/
theorem Begun.read (h : t.Begun s n w) (c : Cloud σ) :
    let r : Request := .read (.transaction n) (EntityKey.kind κ) (EntityKey.text t.key)
    (w.contested c t.rivals r).1 =
        .ok ((t.storeAt n).find? (EntityKey.kind κ) (EntityKey.text t.key)) ∧
      t.Begun s (n + 1) (w.contested c t.rivals r).2 := by
  intro r
  refine ⟨?_, ?_, ?_, ?_⟩
  · show Except.ok (w.session.records.find? _ _) = _
    rw [h.records_eq]
  · rw [World.readings_contested, h.readings, List.range_succ, List.map_append]
    exact congrArg (fun x => _ ++ [x]) h.records_eq
  · rw [World.writes_contested, h.writes]
    rfl
  · show ((t.rivals n).foldl (fun w x => w.put x) (w.serve c 0 r).2).session = _
    rw [World.session_puts]
    show w.session.withRecords (w.session.records.fill (t.rivals n)) = _
    rw [h.records_eq, h.session, Session.withRecords_withRecords]
    rfl

/-- A commit after a rival has written changes nothing. -/
theorem Begun.commit_late (h : t.Begun s (n + 1) w) (hover : t.Overtaken n) (c : Cloud σ)
    (value : Json) :
    let r : Request := .commit (EntityKey.kind κ) (EntityKey.text t.key)
      ((t.storeAt n).version (EntityKey.kind κ) (EntityKey.text t.key)) value
    (w.contested c t.rivals r).1 = false ∧ t.Begun s (n + 1) (w.contested c t.rivals r).2 := by
  intro r
  have hversion : ¬ w.session.records.version (EntityKey.kind κ) (EntityKey.text t.key) =
      (t.storeAt n).version (EntityKey.kind κ) (EntityKey.text t.key) := by
    rw [h.records_eq]
    exact fun heq => version_storeAt_succ.1 heq hover
  have hperform : w.session.perform c r = (false, w.session) := by
    simp only [r, Session.perform, MemoryStore.commit_eq, if_neg hversion,
      Session.withRecords_self]
  refine ⟨congrArg Prod.fst hperform, ?_, ?_, ?_⟩
  · exact (World.readings_contested ..).trans ((List.append_nil _).trans h.readings)
  · rw [World.writes_contested, Session.exchange, hperform, h.writes]
    rfl
  · show (w.session.perform c r).2 = _
    rw [hperform, h.session]

/-- A commit before any rival has written goes through. -/
theorem Begun.commit_first (h : t.Begun s (n + 1) w) (hfirst : ¬ t.Overtaken n) (c : Cloud σ)
    (value : Json) :
    let r : Request := .commit (EntityKey.kind κ) (EntityKey.text t.key)
      ((t.storeAt n).version (EntityKey.kind κ) (EntityKey.text t.key)) value
    let w' := (w.contested c t.rivals r).2
    let write : Write := ⟨EntityKey.kind κ, EntityKey.text t.key, value⟩
    (w.contested c t.rivals r).1 = true ∧
      w'.readings = (List.range (n + 1)).map t.storeAt ∧ w'.writes = [write] ∧
      w'.session = s.withRecords ((t.storeAt (n + 1)).apply write) := by
  intro r w' write
  have hversion : w.session.records.version (EntityKey.kind κ) (EntityKey.text t.key) =
      (t.storeAt n).version (EntityKey.kind κ) (EntityKey.text t.key) := by
    rw [h.records_eq]
    exact version_storeAt_succ.2 hfirst
  have hperform : w.session.perform c r =
      (true, s.withRecords ((t.storeAt (n + 1)).apply write)) := by
    simp only [r, Session.perform, MemoryStore.commit_eq, if_pos hversion]
    rw [h.records_eq, h.session, Session.withRecords_withRecords]
    rfl
  refine ⟨congrArg Prod.fst hperform, ?_, ?_, congrArg Prod.snd hperform⟩
  · exact (World.readings_contested ..).trans ((List.append_nil _).trans h.readings)
  · rw [World.writes_contested, Session.exchange, hperform, h.writes]
    rfl

/-- In memory a save changes nothing. -/
theorem contested_save (hm : w.session.InMemory) (c : Cloud σ) (rivals : Nat → List AnyRecord) :
    let w' := (w.contested c rivals .save).2
    (w.contested c rivals .save).1 = .ok () ∧ w'.readings = w.readings ∧ w'.writes = w.writes ∧
      w'.session = w.session := by
  intro w'
  have hperform : w.session.perform c .save = (.ok (), w.session) := hm.save
  refine ⟨congrArg Prod.fst hperform, ?_, ?_, congrArg Prod.snd hperform⟩
  · exact (World.readings_contested ..).trans (List.append_nil _)
  · exact (World.writes_contested ..).trans (List.append_nil _)

variable [DecidableEq ρ]

/-- One attempt of a run: it reads and decides, and what it wants to write it commits and saves. -/
theorem Begun.run_attempt (h : t.Begun s n w) (c : Cloud σ) (left : Nat) :
    let kind := EntityKey.kind κ
    let id := EntityKey.text t.key
    let w₁ := (w.contested c t.rivals (.read (.transaction n) kind id)).2
    (transactWith t.key t.mutate n (left + 1) (t.memoryAt n)).run (World.contested c t.rivals) w =
      match t.decision n with
      | .stop result => (.ok (result, t.memoryAt (n + 1)), w₁)
      | .write version r value =>
        let committed := w₁.contested c t.rivals (.commit kind id version (Entity.stored r))
        if committed.1 then
          let saved := committed.2.contested c t.rivals .save
          (.ok (saved.1.map fun _ => ⟨value, true⟩, t.memoryAt (n + 1)), saved.2)
        else
          (transactWith t.key t.mutate (n + 1) left (t.memoryAt (n + 1))).run
            (World.contested c t.rivals) committed.2 := by
  intro kind id w₁
  rw [transactWith_succ]
  simp only [request, bind_ask, bind_done, run_ask, (h.read c).1]
  rw [show attempt t.key (fun current => (t.mutate (t.memoryAt n) current).1)
    ((t.storeAt n).find? (EntityKey.kind κ) (EntityKey.text t.key)) = t.decision n from rfl]
  cases t.decision n with
  | stop result => rfl
  | write version r value =>
    simp only [run_ask]
    split
    · rw [run_ask, run_done]
      rfl
    · rfl

variable [LawfulKey κ]

/-- **Every run has an outcome**, from whichever attempt on. -/
theorem run_transactWith (hm : s.InMemory) (c : Cloud σ) :
    ∀ (left n : Nat) (w : World σ), n + left = maxTransactionAttempts → (∀ m < n, t.Lost m) →
      t.Begun s n w →
      ∃ attempts result memory written w',
        (transactWith t.key t.mutate n left (t.memoryAt n)).run (World.contested c t.rivals) w =
          (.ok (result, memory), w') ∧
        t.Ran s attempts result memory written w'
  | 0, n, w, hn, hlost, hw => by
    obtain rfl : n = maxTransactionAttempts := by omega
    exact ⟨_, _, _, [], w, rfl, .contention hlost, rfl, hw.readings, hw.writes, hw.session⟩
  | left + 1, n, w, hn, hlost, hw => by
    have hrun := hw.run_attempt c left
    obtain ⟨-, hw₁⟩ := hw.read c
    have htries : n < maxTransactionAttempts := by omega
    cases hdecision : t.decision n with
    | stop result =>
      simp only [hdecision] at hrun
      exact ⟨n + 1, result, _, [], _, hrun, .ended htries hlost (ending_of_stop hdecision), rfl,
        hw₁.readings, hw₁.writes, hw₁.session⟩
    | write version r value =>
      obtain ⟨hoffer, rfl⟩ := offers_of_write hdecision
      simp only [hdecision] at hrun
      by_cases hover : t.Overtaken n
      · -- the commit comes too late, and the next attempt begins
        obtain ⟨hreply, hw₂⟩ := hw₁.commit_late hover c (Entity.stored r)
        simp only [hreply, Bool.false_eq_true, if_false] at hrun
        have hlost' : ∀ m < n + 1, t.Lost m := fun m hmn =>
          (Nat.lt_succ_iff_lt_or_eq.1 hmn).elim (hlost m) fun heq => heq ▸ ⟨⟨r, value, hoffer⟩, hover⟩
        rw [hrun]
        exact run_transactWith hm c left (n + 1) _ (by omega) hlost' hw₂
      · obtain ⟨hreply, hreadings, hwrites, hsession⟩ := hw₁.commit_first hover c (Entity.stored r)
        have hm₂ := hsession ▸ hm.withRecords _
        obtain ⟨hsaved, hreadings₃, hwrites₃, hsession₃⟩ := contested_save hm₂ c t.rivals
        simp only [hreply, if_true, hsaved] at hrun
        exact ⟨n + 1, _, _, _, _, hrun, .ended htries hlost (.wrote hoffer hover), rfl,
          hreadings₃.trans hreadings, hwrites₃.trans hwrites, hsession₃.trans hsession⟩

/-- **Every transaction has an outcome** on a store in memory. -/
theorem run_ofStore (t : Contest ρ β γ) (c : Cloud σ) (session : Session σ) :
    let start := World.ofStore session t.store
    ∃ attempts result memory written w,
      (transactWith t.key t.mutate 0 maxTransactionAttempts t.memory).run
          (World.contested c t.rivals) start = (.ok (result, memory), w) ∧
        t.Ran start.session attempts result memory written w := by
  intro start
  have hbegun : t.Begun start.session 0 start :=
    ⟨rfl, rfl, (Session.withRecords_self start.session).symm⟩
  exact run_transactWith ⟨t.store, rfl⟩ c maxTransactionAttempts 0 start (Nat.zero_add _) (by simp)
    hbegun

end Runs

end Contest

/-! ## Records of one type -/

/-- The records that are written under a kind are all of one type. -/
class RecordType (ρ : Type) {κ : Type} [Entity ρ κ] : Prop extends LawfulEntity ρ where
  of_kind : ∀ r : AnyRecord, r.write.kind = EntityKey.kind κ →
    ∃ r' : ρ, r.write.value = Entity.stored r'

instance : RecordType Template where
  of_kind r h := by
    cases r with
    | template r => exact ⟨r, rfl⟩
    | _ => cases h

instance : RecordType Revision where
  of_kind r h := by
    cases r with
    | revision r => exact ⟨r, rfl⟩
    | _ => cases h

instance : RecordType Manager where
  of_kind r h := by
    cases r with
    | manager r => exact ⟨r, rfl⟩
    | _ => cases h

instance : RecordType Instance where
  of_kind r h := by
    cases r with
    | machine r => exact ⟨r, rfl⟩
    | _ => cases h

/-- Where a reading succeeds, it does so after any records were written. -/
theorem MemoryStore.exists_read_fill {ρ κ : Type} [Entity ρ κ] [RecordType ρ] {s : MemoryStore}
    {key : κ} (h : ∃ current, s.read ρ key = .ok current) (records : List AnyRecord) :
    ∃ current, (s.fill records).read ρ key = .ok current := by
  induction records generalizing s with
  | nil => exact h
  | cons r records ih =>
    refine ih ?_
    show ∃ current, (s.put r.write.kind r.write.id r.write.value).read ρ key = .ok current
    by_cases hwrite : EntityKey.kind κ = r.write.kind ∧ EntityKey.text key = r.write.id
    · obtain ⟨hkind, hid⟩ := hwrite
      obtain ⟨r', hvalue⟩ := RecordType.of_kind (ρ := ρ) r hkind.symm
      rw [← hkind, ← hid, hvalue]
      exact ⟨some r', read_put_self s key r'⟩
    · rw [read_put_of_ne s hwrite]
      exact h

namespace Contest

open Service

variable {ρ κ β γ σ : Type} [Entity ρ κ] [RecordType ρ]

theorem exists_reading {t : Contest ρ β γ} (h : ∃ current, t.store.read ρ t.key = .ok current) :
    ∀ n, ∃ current, t.reading n = .ok current
  | 0 => h
  | n + 1 => MemoryStore.exists_read_fill (exists_reading h n) (t.rivals n)

end Contest

namespace Sample

/-- A transaction that changes the instance and counts how often it is applied. During the first
attempt a rival writes the record that is stored once again. -/
def contest : Contest Instance Unit Nat where
  key := machine.key
  mutate count current := ((current.map fun i => { i with cataloged := true }, ()), count + 1)
  memory := 0
  store := store
  rivals attempt := if attempt = 0 then [.machine machine] else []

theorem reading_contest : ∀ n, n < 2 → contest.reading n = .ok (some machine)
  | 0, _ => MemoryStore.read_put_self _ machine.key machine
  | 1, _ => MemoryStore.read_put_self store machine.key machine

theorem offers_contest {n : Nat} (hn : n < 2) :
    contest.Offers n { machine with cataloged := true } () := by
  refine ⟨some machine, ⟨reading_contest n hn, rfl⟩, fun heq => ?_, rfl⟩
  exact Bool.noConfusion (congrArg Instance.cataloged (Option.some.inj heq))

theorem lost_contest_iff {n : Nat} : contest.Lost n ↔ n = 0 := by
  constructor
  · rintro ⟨-, r, hr, -⟩
    by_contra hn
    simp [contest, hn] at hr
  · rintro rfl
    exact ⟨⟨_, _, offers_contest (by decide)⟩, .machine machine, List.mem_singleton_self _, rfl, rfl⟩

end Sample

open Service in
/-- **A transaction against any rivals**, on a store in memory whose record, if there is one, decodes:
at most four times the mutation is applied to what is stored at that moment, and each time but the
last one it has changed the record and was overtaken. -/
theorem contested_transaction {ρ κ β γ σ : Type} [Entity ρ κ] [RecordType ρ] [DecidableEq ρ]
    (t : Contest ρ β γ) (c : Cloud σ) (session : Session σ)
    (hread : ∃ current, t.store.read ρ t.key = .ok current) :
    let start := World.ofStore session t.store
    ∃ attempts result memory written w,
      (transactWith t.key t.mutate 0 maxTransactionAttempts t.memory).run
          (World.contested c t.rivals) start = (.ok (result, memory), w) ∧
      t.Ran start.session attempts result memory written w ∧ attempts ≤ 4 ∧
      (∀ n, ∃ current, t.reading n = .ok current) ∧
      (written ≠ [] ↔ ∃ value, result = .ok ⟨value, true⟩) ∧
      (result = .error (.of (.store (.contention (EntityKey.kind κ) (EntityKey.text t.key) 4))) ↔
        ∀ n < 4, t.Lost n) := by
  intro start
  obtain ⟨attempts, result, memory, written, w, hrun, hran⟩ := t.run_ofStore c session
  have hreadings := Contest.exists_reading hread
  refine ⟨attempts, result, memory, written, w, hrun, hran, ?_, hreadings, ?_, ?_⟩
  · cases hran.outcome with
    | ended tries => exact tries
    | contention => exact Nat.le_refl 4
  · cases hran.outcome with
    | contention => simp
    | ended _ _ ending => cases ending <;> simp
  · cases hran.outcome with
    | contention before => exact ⟨fun _ => before, fun _ => rfl⟩
    | @ended n _ _ tries before ending =>
      refine ⟨fun hcontention => ?_, fun hlost => ((hlost n tries).not_ending ending).elim⟩
      subst hcontention
      cases ending with
      | unreadable failed =>
        obtain ⟨current, hcurrent⟩ := hreadings n
        cases hcurrent.symm.trans failed

open Service in
/-- A rival that writes the very record that is there overtakes an attempt: the mutation is applied
twice, and then the transaction writes. -/
theorem contested_transaction_of_identical_write :
    ∃ w, (transactWith Sample.contest.key Sample.contest.mutate 0 maxTransactionAttempts 0).run
        (World.contested CloudScript.cloud Sample.contest.rivals)
        (World.ofStore Sample.session Sample.contest.store) = (.ok (.ok ⟨(), true⟩, 2), w) := by
  obtain ⟨attempts, result, memory, written, w, hrun, hran, -⟩ :=
    contested_transaction Sample.contest CloudScript.cloud Sample.session
      ⟨some Sample.machine, Sample.reading_contest 0 (by decide)⟩
  refine ⟨w, hrun.trans ?_⟩
  have hmemory := hran.memory
  cases hran.outcome with
  | contention before => exact absurd (Sample.lost_contest_iff.1 (before 1 (by decide))) (by decide)
  | @ended n _ _ tries before ending =>
    -- the first attempt was overtaken, and the second was not
    have hn : n = 1 := by
      rcases n with _ | _ | n
      · exact ((Sample.lost_contest_iff.2 rfl).not_ending ending).elim
      · rfl
      · exact absurd (Sample.lost_contest_iff.1 (before 1 (by omega))) (by decide)
    subst hn
    obtain ⟨-, rfl, -⟩ := (Sample.offers_contest (by decide)).ending_eq ending
    have htwice : Sample.contest.memoryAt 2 = 2 := by
      rw [Contest.memoryAt, Sample.reading_contest 1 (by decide), Contest.memoryAt,
        Sample.reading_contest 0 (by decide)]
      rfl
    rw [hmemory, htwice]

end FleetReconciler
