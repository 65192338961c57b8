import FleetReconciler.Proofs.Growth
import FleetReconciler.Session.Interference

/-!
# Crowds

Several services work on one session at a time. A turn lets one of them have its next request
served, lets another writer put a record, or moves the clock; between two requests of one service
any number of turns may go to others. What happens is written to a history, each entry with the
records that it met.

## Protocol

* `Exchange` — a request with its reply and the records before it;
* `Happening`, `World` — an exchange of the service at a place or a put, and the session with all
  that has happened;
* `Crowd`, `Turn`, `Crowd.run` — the services with their world, and a run over any list of turns.

## Results

* `records_perform` — only a commit touches the records;
* `Follows` — a history that leads from one store to another, entry by entry; `Crowd.follows_run`
  says that every run has such a history;
* `World.Others` — what a service may rely on while others take their turns, `World.others_serve`
  and `World.others_put`.
-/

namespace FleetReconciler

/-! ## Exchanges and histories -/

/-- A record of any kind. -/
inductive AnyRecord where
  | template (r : Template)
  | revision (r : Revision)
  | manager (r : Manager)
  | machine (r : Instance)
  deriving DecidableEq, Repr

namespace AnyRecord

/-- The write that stores a record under the text of its key. -/
def write : AnyRecord → Write
  | template r => ⟨.template, EntityKey.text r.key, Entity.stored r⟩
  | revision r => ⟨.revision, EntityKey.text r.key, Entity.stored r⟩
  | manager r => ⟨.manager, EntityKey.text r.key, Entity.stored r⟩
  | machine r => ⟨.machine, EntityKey.text r.key, Entity.stored r⟩

end AnyRecord

/-- The store after a write. -/
def MemoryStore.apply (s : MemoryStore) (w : Write) : MemoryStore := s.put w.kind w.id w.value

/-- A request that was served: the records before it and the reply. -/
structure Exchange where
  records : MemoryStore
  request : Request
  reply : request.Reply

/-- What an exchange wrote: only a commit that went through writes. -/
def Exchange.write? : Exchange → Option Write
  | ⟨_, .commit kind id _ value, true⟩ => some ⟨kind, id, value⟩
  | _ => none

/-- Whether an exchange did something outside of the service: it wrote, reported, called the compute
API or queued a task. -/
def Exchange.isDeed : Exchange → Bool
  | ⟨_, .commit .., done⟩ => done
  | ⟨_, .send .., _⟩ | ⟨_, .listInstances _, _⟩ | ⟨_, .deleteInstances _, _⟩
  | ⟨_, .enqueue _, _⟩ => true
  | _ => false

theorem Exchange.isDeed_of_write {e : Exchange} (h : e.write?.isSome) : e.isDeed = true := by
  unfold Exchange.write? at h
  split at h
  · rfl
  · cases h

/-- The event that an exchange reported, with the hostname. -/
def Exchange.event? : Exchange → Option (MachineEvent × String)
  | ⟨_, .send event hostname, _⟩ => some (event, hostname)
  | _ => none

/-- What happens among several services. -/
inductive Happening where
  /-- The service at a place had a request served. -/
  | served (place : Nat) (e : Exchange)
  /-- Another writer put a record. -/
  | put (records : MemoryStore) (r : AnyRecord)

namespace Happening

/-- The records that it met. -/
def records : Happening → MemoryStore
  | served _ e => e.records
  | put records _ => records

/-- The place whose request was served; none if another writer put a record. -/
def place? : Happening → Option Nat
  | served place _ => some place
  | put .. => none

/-- What it wrote. -/
def write? : Happening → Option Write
  | served _ e => e.write?
  | put _ r => some r.write

/-- The records that it left. -/
def after (h : Happening) : MemoryStore :=
  match h.write? with
  | some w => h.records.apply w
  | none => h.records

/-- Its exchange, if it is a deed of the service at a place. -/
def deedOf? (place : Nat) : Happening → Option Exchange
  | served p e => if p = place ∧ e.isDeed then some e else none
  | put .. => none

end Happening

/-- The records that an exchange left. -/
def Exchange.after (e : Exchange) : MemoryStore := (Happening.served 0 e).after

/-- A history leads from one store to another when each entry meets the records that the entry
before it has left. -/
def Follows : MemoryStore → List Happening → MemoryStore → Prop
  | s, [], t => t = s
  | s, h :: hs, t => h.records = s ∧ Follows h.after hs t

theorem follows_append {hs hs' : List Happening} {s u : MemoryStore} :
    Follows s (hs ++ hs') u ↔ ∃ t, Follows s hs t ∧ Follows t hs' u := by
  induction hs generalizing s with
  | nil => simp [Follows]
  | cons h hs ih =>
    simp only [List.cons_append, Follows, ih]
    constructor
    · rintro ⟨hr, t, ht, hu⟩
      exact ⟨t, ⟨hr, ht⟩, hu⟩
    · rintro ⟨t, ⟨hr, ht⟩, hu⟩
      exact ⟨hr, t, ht, hu⟩

theorem Happening.grows_after (h : Happening) : h.records.Grows h.after := by
  unfold Happening.after
  split
  · exact MemoryStore.grows_put _ _ _ _
  · exact MemoryStore.Grows.refl _

theorem Exchange.grows_after (e : Exchange) : e.records.Grows e.after :=
  (Happening.served 0 e).grows_after

theorem Follows.grows {hs : List Happening} {s t : MemoryStore} (h : Follows s hs t) :
    s.Grows t := by
  induction hs generalizing s with
  | nil => exact h ▸ MemoryStore.Grows.refl s
  | cons x hs ih =>
    obtain ⟨rfl, h⟩ := h
    exact x.grows_after.trans (ih h)

/-- What stands in the middle of a history divides it into two. -/
theorem Follows.split {pre post : List Happening} {x : Happening} {s t : MemoryStore}
    (h : Follows s (pre ++ x :: post) t) : Follows s pre x.records ∧ Follows x.after post t := by
  obtain ⟨u, hpre, rfl, hpost⟩ := follows_append.1 h
  exact ⟨hpre, hpost⟩

/-- A history leads to the first store with its writes applied one after another. -/
theorem Follows.eq_foldl {hs : List Happening} {s t : MemoryStore} (h : Follows s hs t) :
    t = (hs.filterMap Happening.write?).foldl MemoryStore.apply s := by
  induction hs generalizing s with
  | nil => exact h
  | cons x hs ih =>
    obtain ⟨rfl, hrest⟩ := h
    have hwrite : x.after = (x.write?.toList).foldl MemoryStore.apply x.records := by
      unfold Happening.after
      cases x.write? <;> rfl
    rw [ih hrest, hwrite, ← List.foldl_append, List.filterMap_cons]
    cases x.write? <;> rfl

/-! ## The records of a session -/

namespace Session

variable {κ : Type}

@[simp]
theorem records_withRecords (s : Session κ) (records : MemoryStore) :
    (s.withRecords records).records = records := by
  unfold withRecords Session.records
  cases s.backend <;> rfl

theorem withRecords_self (s : Session κ) : s.withRecords s.records = s := by
  unfold withRecords Session.records
  cases h : s.backend <;> simp [Backend.records, Backend.withRecords, ← h]

@[simp]
theorem withRecords_withRecords (s : Session κ) (records records' : MemoryStore) :
    (s.withRecords records).withRecords records' = s.withRecords records' := by
  unfold withRecords
  cases s.backend <;> rfl

/-- Whether the records are kept in memory only. -/
def InMemory (s : Session κ) : Prop := ∃ store, s.backend = .memory store

theorem InMemory.withRecords {s : Session κ} (h : s.InMemory) (records : MemoryStore) :
    (s.withRecords records).InMemory := by
  obtain ⟨store, h⟩ := h
  exact ⟨records, by simp [Session.withRecords, Backend.withRecords, h]⟩

theorem InMemory.save {s : Session κ} (h : s.InMemory) : s.save = (.ok (), s) := by
  obtain ⟨store, h⟩ := h
  simp [Session.save, h]

theorem records_save (s : Session κ) : s.save.2.records = s.records := by
  unfold Session.save Session.records
  cases h : s.backend <;> simp [h]

theorem records_enqueue (t : Task) (s : Session κ) : (s.enqueue t).2.records = s.records := by
  unfold Session.enqueue
  split <;> rfl

/-- The exchange of a request with a session. -/
def exchange (c : Cloud κ) (r : Request) (s : Session κ) : Exchange :=
  ⟨s.records, r, (s.perform c r).1⟩

/-- **Only a commit that goes through touches the records.** -/
theorem records_perform (c : Cloud κ) (r : Request) (s : Session κ) :
    (perform c r s).2.records =
      match (s.exchange c r).write? with
      | some w => s.records.apply w
      | none => s.records := by
  cases r with
  | commit kind id version value =>
    simp only [perform, exchange, MemoryStore.commit_eq]
    by_cases h : s.records.version kind id = version
    · simp [h, Exchange.write?, MemoryStore.apply]
    · simp [h, Exchange.write?]
  | save => exact records_save s
  | enqueue t => exact records_enqueue t s
  | _ => rfl

theorem InMemory.perform {s : Session κ} (h : s.InMemory) (c : Cloud κ) (r : Request) :
    (perform c r s).2.InMemory := by
  cases r with
  | commit kind id version value => exact h.withRecords _
  | save => simpa [Session.perform, h.save] using h
  | enqueue t =>
    simp only [Session.perform, Session.enqueue]
    split
    · exact h
    · exact h
  | _ => exact h

end Session

/-! ## Worlds -/

/-- A session with what has happened to it, in order. -/
structure World (κ : Type) where
  session : Session κ
  history : List Happening := []

namespace World

variable {κ : Type}

/-- The records. -/
def records (w : World κ) : MemoryStore := w.session.records

/-- A world without a history whose records are kept in memory. -/
def ofStore (session : Session κ) (store : MemoryStore) : World κ :=
  { session := { session with backend := .memory store } }

/-- Serves a request of the service at a place. -/
def serve (c : Cloud κ) (place : Nat) (r : Request) (w : World κ) : r.Reply × World κ :=
  let (reply, session) := w.session.perform c r
  (reply, { session, history := w.history ++ [.served place (w.session.exchange c r)] })

/-- Puts a record for another writer. -/
def put (r : AnyRecord) (w : World κ) : World κ where
  session := w.session.withRecords (w.records.apply r.write)
  history := w.history ++ [.put w.records r]

/-- Moves the clock. -/
def setClock (t : Timestamp) (w : World κ) : World κ :=
  { w with session := { w.session with clock := t } }

/-- The deeds of the service at a place, in order. -/
def deeds (place : Nat) (w : World κ) : List Exchange :=
  w.history.filterMap (Happening.deedOf? place)

/-- The events that the service at a place has reported, in order. -/
def events (place : Nat) (w : World κ) : List (MachineEvent × String) :=
  (w.deeds place).filterMap Exchange.event?

/-- Every write of a place is a deed of that place. -/
theorem mem_deeds {w : World κ} {place : Nat} {e : Exchange} (he : .served place e ∈ w.history)
    (hw : e.write?.isSome) : e ∈ w.deeds place := by
  refine List.mem_filterMap.2 ⟨_, he, ?_⟩
  simp [Happening.deedOf?, Exchange.isDeed_of_write hw]

theorem mem_history_of_mem_deeds {w : World κ} {place : Nat} {e : Exchange}
    (he : e ∈ w.deeds place) : .served place e ∈ w.history := by
  obtain ⟨h, hh, hdeed⟩ := List.mem_filterMap.1 he
  cases h with
  | put records r => cases hdeed
  | served p e' =>
    simp only [Happening.deedOf?] at hdeed
    split at hdeed
    · rename_i hp
      obtain ⟨rfl, -⟩ := hp
      cases hdeed
      exact hh
    · cases hdeed

theorem deeds_serve (c : Cloud κ) (place other : Nat) (r : Request) (w : World κ) :
    (w.serve c place r).2.deeds other =
      w.deeds other ++
        if place = other ∧ (w.session.exchange c r).isDeed then [w.session.exchange c r]
        else [] := by
  by_cases h : place = other ∧ (w.session.exchange c r).isDeed
  · simp [deeds, serve, Happening.deedOf?, h]
  · simp only [deeds, serve, List.filterMap_append, List.filterMap_cons, List.filterMap_nil,
      Happening.deedOf?, if_neg h]

@[simp]
theorem deeds_put (place : Nat) (r : AnyRecord) (w : World κ) :
    (w.put r).deeds place = w.deeds place := by
  simp [deeds, put, Happening.deedOf?]

theorem records_serve (c : Cloud κ) (place : Nat) (r : Request) (w : World κ) :
    (w.serve c place r).2.records = (Happening.served place (w.session.exchange c r)).after :=
  Session.records_perform c r w.session

@[simp]
theorem records_put (r : AnyRecord) (w : World κ) :
    (w.put r).records = (Happening.put w.records r).after :=
  Session.records_withRecords ..

/-! ### What a service may rely on -/

/-- What the service at a place may rely on while others take their turns: the store only grows,
the service itself has no part in it, and records in memory stay there. -/
structure Others (place : Nat) (w w' : World κ) : Prop where
  grows : w.records.Grows w'.records
  deeds : w'.deeds place = w.deeds place
  inMemory : w.session.InMemory → w'.session.InMemory

namespace Others

variable {place : Nat} {w w' w'' : World κ}

theorem refl (place : Nat) (w : World κ) : Others place w w :=
  ⟨.refl _, rfl, id⟩

theorem trans (h : Others place w w') (h' : Others place w' w'') : Others place w w'' :=
  ⟨h.grows.trans h'.grows, h'.deeds.trans h.deeds, h'.inMemory ∘ h.inMemory⟩

end Others

theorem grows_serve (c : Cloud κ) (place : Nat) (r : Request) (w : World κ) :
    w.records.Grows (w.serve c place r).2.records := by
  rw [records_serve]
  exact Happening.grows_after (.served place (w.session.exchange c r))

theorem inMemory_serve {w : World κ} (h : w.session.InMemory) (c : Cloud κ) (place : Nat)
    (r : Request) : (w.serve c place r).2.session.InMemory := h.perform c r

theorem others_serve (c : Cloud κ) {place other : Nat} (h : place ≠ other) (r : Request)
    (w : World κ) : Others other w (w.serve c place r).2 where
  grows := grows_serve c place r w
  deeds := by simp [deeds_serve, h]
  inMemory hm := inMemory_serve hm c place r

/-- A request of its own that is no deed looks to a service like the turn of another. -/
theorem others_serve_quiet (c : Cloud κ) (place : Nat) (r : Request) (w : World κ)
    (h : (w.session.exchange c r).isDeed = false) : Others place w (w.serve c place r).2 where
  grows := grows_serve c place r w
  deeds := by simp [deeds_serve, h]
  inMemory hm := inMemory_serve hm c place r

/-- A commit that comes in time is a deed, and its value is stored. -/
theorem serve_commit_in_time (c : Cloud κ) (place : Nat) {kind : Kind} {id : String} {version : Nat}
    (value : Json) {w : World κ} (h : w.records.version kind id = version) :
    (w.serve c place (.commit kind id version value)).1 = true ∧
      (w.serve c place (.commit kind id version value)).2.deeds place =
        w.deeds place ++ [⟨w.records, .commit kind id version value, true⟩] ∧
      (w.serve c place (.commit kind id version value)).2.records =
        w.records.put kind id value := by
  have hreply : (w.session.perform c (.commit kind id version value)).1 = true := by
    show (w.records.commit kind id version value).1 = true
    rw [MemoryStore.commit_eq, if_pos h]
  have hexchange : w.session.exchange c (.commit kind id version value) =
      ⟨w.records, .commit kind id version value, true⟩ :=
    congrArg (Exchange.mk w.records (.commit kind id version value)) hreply
  refine ⟨hreply, ?_, ?_⟩
  · rw [deeds_serve, hexchange]
    simp [Exchange.isDeed]
  · rw [records_serve, hexchange]
    rfl

/-- A commit that comes too late is no deed. -/
theorem serve_commit_late (c : Cloud κ) (place : Nat) {kind : Kind} {id : String} {version : Nat}
    (value : Json) {w : World κ} (h : w.records.version kind id ≠ version) :
    (w.serve c place (.commit kind id version value)).1 = false ∧
      Others place w (w.serve c place (.commit kind id version value)).2 := by
  have hreply : (w.session.perform c (.commit kind id version value)).1 = false := by
    show (w.records.commit kind id version value).1 = false
    rw [MemoryStore.commit_eq, if_neg h]
  exact ⟨hreply, others_serve_quiet c place _ w hreply⟩

theorem others_put (place : Nat) (r : AnyRecord) (w : World κ) : Others place w (w.put r) where
  grows := by rw [records_put]; exact Happening.grows_after (.put w.records r)
  deeds := deeds_put place r w
  inMemory hm := hm.withRecords _

theorem others_setClock (place : Nat) (t : Timestamp) (w : World κ) :
    Others place w (w.setClock t) :=
  ⟨.refl _, rfl, id⟩

end World

/-! ## Crowds -/

/-- Services at work on one session. A service that has ended keeps its place. -/
structure Crowd (κ α : Type) where
  world : World κ
  services : List (Service α)

/-- What can happen next. -/
inductive Turn where
  /-- The service at a place has its next request served. -/
  | serve (place : Nat)
  /-- Another writer puts a record. -/
  | put (r : AnyRecord)
  /-- The clock is set. -/
  | clock (t : Timestamp)

namespace Crowd

variable {κ α : Type}

/-- Services that are about to start on records in memory. -/
def start (session : Session κ) (store : MemoryStore) (services : List (Service α)) : Crowd κ α :=
  ⟨.ofStore session store, services⟩

/-- One turn. The turn of a service that has ended, or of a place without a service, passes. -/
def turn (c : Cloud κ) (s : Crowd κ α) : Turn → Crowd κ α
  | .serve place =>
    match s.services[place]? with
    | some (.ask r next) =>
      let (reply, world) := s.world.serve c place r
      ⟨world, s.services.set place (next reply)⟩
    | _ => s
  | .put r => { s with world := s.world.put r }
  | .clock t => { s with world := s.world.setClock t }

/-- A run: one turn after another. -/
def run (c : Cloud κ) (turns : List Turn) (s : Crowd κ α) : Crowd κ α := turns.foldl (turn c) s

/-- The history of a run leads from the records at its start to those at its end. -/
theorem follows_turn (c : Cloud κ) (t : Turn) {s : Crowd κ α} {store : MemoryStore}
    (h : Follows store s.world.history s.world.records) :
    Follows store (s.turn c t).world.history (s.turn c t).world.records := by
  cases t with
  | serve place =>
    unfold turn
    simp only
    split
    · rename_i r next _
      rw [World.records_serve]
      exact follows_append.2 ⟨_, h, rfl, rfl⟩
    · exact h
  | put r =>
    simp only [turn, World.records_put]
    exact follows_append.2 ⟨_, h, rfl, rfl⟩
  | clock t => exact h

theorem follows_run (c : Cloud κ) (turns : List Turn) {s : Crowd κ α} {store : MemoryStore}
    (h : Follows store s.world.history s.world.records) :
    Follows store (s.run c turns).world.history (s.run c turns).world.records := by
  induction turns generalizing s with
  | nil => exact h
  | cons t turns ih => exact ih (follows_turn c t h)

theorem follows_start (session : Session κ) (store : MemoryStore) (services : List (Service α)) :
    Follows store (start session store services).world.history
      (start session store services).world.records := rfl

end Crowd

end FleetReconciler
