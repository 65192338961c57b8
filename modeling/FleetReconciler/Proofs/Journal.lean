import FleetReconciler.Proofs.Solo
import FleetReconciler.Proofs.HandlerSimulation
import FleetReconciler.Execution

/-!
# Journals

A journal is a session with the deeds of the tasks that worked on it, in order. The journaling
handler carries out tasks as the handler of the dispatcher does, and enters each deed under its
task. The session does not depend on the entries, so a drain with a journal is the drain of its session.

* `Journal.serve`, `Journal.handler` — one request of a task, and the handler;
* `Journal.Complete` — every call and every event since the start is entered;
* `Journal.run_transact` — a transaction of a task that runs alone;
* `Journal.unmoved_run` — a service without deeds leaves the records and the entries alone;
* `Journal.drain_keeps` — **a drain with a journal is the drain of its session**, and ends with
  whatever every run keeps.
-/

namespace FleetReconciler

/-- The call of the compute API that an exchange was. -/
def Exchange.call? : Exchange → Option CloudCall
  | ⟨_, .listInstances call, _⟩ => some (.list call)
  | ⟨_, .deleteInstances call, _⟩ => some (.delete call)
  | _ => none

namespace Session

variable {κ : Type}

/-- A request adds its call to the calls. -/
theorem calls_perform (c : Cloud κ) (r : Request) (s : Session κ) :
    (perform c r s).2.calls = s.calls ++ (s.exchange c r).call?.toList := by
  cases r with
  | save =>
    simp only [perform, save, exchange, Exchange.call?]
    split <;> simp
  | enqueue t =>
    simp only [perform, enqueue, exchange, Exchange.call?]
    split <;> simp
  | _ => simp [perform, exchange, Exchange.call?, withRecords, note, send]

/-- A request adds its event to the events. -/
theorem events_perform (c : Cloud κ) (r : Request) (s : Session κ) :
    (perform c r s).2.events = s.events ++ (s.exchange c r).event?.toList := by
  cases r with
  | save =>
    simp only [perform, save, exchange, Exchange.event?]
    split <;> simp
  | enqueue t =>
    simp only [perform, enqueue, exchange, Exchange.event?]
    split <;> simp
  | _ => simp [perform, exchange, Exchange.event?, withRecords, note, send]

end Session

/-- A dispatcher whose queue holds tasks. -/
def Dispatcher.ofTasks {σ : Type} (settings : DispatcherSettings) (state : σ) (tasks : List Task) :
    Dispatcher σ :=
  ({ settings, state } : Dispatcher σ).enqueueAll tasks

/-! ## Entries -/

/-- A deed with the task that did it. -/
structure Entry where
  task : Task
  exchange : Exchange

/-- A session with the deeds of the tasks, in order. -/
structure Journal (κ : Type) where
  session : Session κ
  entries : List Entry := []

namespace Journal

variable {κ : Type}

/-- The records. -/
def records (j : Journal κ) : MemoryStore := j.session.records

/-- Writes to the log. -/
def note (n : Notice) (j : Journal κ) : Journal κ := { j with session := j.session.note n }

/-- Serves a request of a task, and enters it if it is a deed. -/
def serve (c : Cloud κ) (t : Task) (r : Request) (j : Journal κ) : r.Reply × Journal κ :=
  let e := j.session.exchange c r
  let (reply, session) := j.session.perform c r
  (reply, { session, entries := if e.isDeed then j.entries ++ [⟨t, e⟩] else j.entries })

/-- The handler that carries out tasks and enters what they do. -/
def handler (c : Cloud κ) (settings : DiscoverySettings) : Handler (Journal κ) Outcome where
  start t := (taskHandler (serve c t) settings).start t
  finish outcome j := (outcome, j)
  note := note

/-- Drains the queue with this handler, as `Dispatcher.drainTasks` does with its own. -/
def drainTasks (c : Cloud κ) (settings : DiscoverySettings) (d : Dispatcher (Journal κ)) :
    Dispatcher (Journal κ) × Report :=
  d.drain (handler c settings) (max 1 d.settings.maxAttempts.toNat)

/-- Every call and every event since a session is entered. -/
structure Complete (s : Session κ) (j : Journal κ) : Prop where
  calls : j.session.calls = s.calls ++ j.entries.filterMap fun e => e.exchange.call?
  events : j.session.events = s.events ++ j.entries.filterMap fun e => e.exchange.event?

theorem Complete.serve {s : Session κ} {j : Journal κ} (h : Complete s j) (c : Cloud κ) (t : Task)
    (r : Request) : Complete s (j.serve c t r).2 := by
  have hcalls := Session.calls_perform c r j.session
  have hevents := Session.events_perform c r j.session
  rw [h.calls] at hcalls
  rw [h.events] at hevents
  have hquiet : (j.session.exchange c r).isDeed = false →
      (j.session.exchange c r).call? = none ∧ (j.session.exchange c r).event? = none := by
    cases r <;> simp [Session.exchange, Exchange.isDeed, Exchange.call?, Exchange.event?]
  have hentered {α : Type} (f : Exchange → Option α) :
      (j.entries ++ [Entry.mk t (j.session.exchange c r)]).filterMap (fun e => f e.exchange) =
        j.entries.filterMap (fun e => f e.exchange) ++ (f (j.session.exchange c r)).toList := by
    rw [List.filterMap_append]
    cases hf : f (j.session.exchange c r) <;> simp [hf]
  unfold Journal.serve
  cases hdeed : (j.session.exchange c r).isDeed with
  | true =>
    rw [List.append_assoc, ← hentered] at hcalls hevents
    constructor
    · simp only [hdeed, if_true]
      exact hcalls
    · simp only [hdeed, if_true]
      exact hevents
  | false =>
    obtain ⟨hcall, hevent⟩ := hquiet hdeed
    exact ⟨by simpa [hdeed, hcall] using hcalls, by simpa [hdeed, hevent] using hevents⟩

/-! ## Runs of a task -/

section Runs

variable {c : Cloud κ} {t : Task} {j : Journal κ}

/-- The session of a journal runs as it does without one. -/
theorem run_session {α : Type} (service : Service α) (j : Journal κ) :
    service.run (Session.perform c) j.session =
      ((service.run (serve c t) j).1, (service.run (serve c t) j).2.session) :=
  Service.run_map session (fun _ _ => rfl) service j

theorem run_inMemory {α : Type} (service : Service α) (hm : j.session.InMemory) :
    (service.run (serve c t) j).2.session.InMemory :=
  Service.run_keeps (P := fun j : Journal κ => j.session.InMemory)
    (fun r _ hm => hm.perform c r) service hm

theorem run_complete {α : Type} (service : Service α) {s : Session κ} (h : Complete s j) :
    Complete s (service.run (serve c t) j).2 :=
  Service.run_keeps (fun r _ h => h.serve c t r) service h

@[simp]
theorem serve_now : j.serve c t .now = (j.session.clock, j) := by
  rfl

@[simp]
theorem run_note (n : Notice) :
    (Service.note n).run (serve c t) j = (.ok (), j.note n) := by
  rfl

@[simp]
theorem run_send (event : MachineEvent) (hostname : String) :
    (Service.send event hostname).run (serve c t) j =
      (.ok (), ⟨j.session.send event hostname,
        j.entries ++ [⟨t, ⟨j.records, .send event hostname, ()⟩⟩]⟩) := by
  rfl

/-- A look-up reads a record. -/
@[simp]
theorem run_lookup {ρ k : Type} [Entity ρ k] (key : k) :
    (Service.lookup ρ key).run (serve c t) j = (j.records.read ρ key, j) := by
  rw [Service.lookup_eq, Service.request_bind, Service.run_ask]
  show (Service.lift (j.records.read ρ key)).run (serve c t) j = _
  rw [Service.run_lift]

/-- The journal after a task has written a record. -/
def write {ρ k : Type} [Entity ρ k] (t : Task) (key : k) (record : ρ) (j : Journal κ) :
    Journal κ where
  session := j.session.withRecords
    (j.records.put (EntityKey.kind k) (EntityKey.text key) (Entity.stored record))
  entries := j.entries ++ [⟨t, Service.committed key j.records
    (j.records.version (EntityKey.kind k) (EntityKey.text key)) record⟩]

@[simp]
theorem records_write {ρ k : Type} [Entity ρ k] (t : Task) (key : k) (record : ρ) (j : Journal κ) :
    (j.write t key record).records =
      j.records.put (EntityKey.kind k) (EntityKey.text key) (Entity.stored record) :=
  Session.records_withRecords ..

/-- A transaction of a task that runs alone. -/
theorem run_transact {ρ k β : Type} [Entity ρ k] [DecidableEq ρ] (key : k)
    (mutate : Option ρ → Option ρ × β) (hm : j.session.InMemory) :
    (Service.transact key mutate).run (serve c t) j =
      match Service.attempt key mutate
        (j.records.find? (EntityKey.kind k) (EntityKey.text key)) with
      | .stop r => (r, j)
      | .write _ record value => (.ok ⟨value, true⟩, j.write t key record) := by
  have hcommit : ∀ record : ρ, serve c t (.commit (EntityKey.kind k) (EntityKey.text key)
      (j.records.version (EntityKey.kind k) (EntityKey.text key)) (Entity.stored record)) j =
        (true, j.write t key record) := by
    intro record
    simp [serve, write, records, Session.exchange, Session.perform, MemoryStore.commit_eq,
      Exchange.isDeed, Service.committed]
  have hsave : ∀ record : ρ, serve c t .save (j.write t key record) =
      (.ok (), j.write t key record) := by
    intro record
    have hsaved := (hm.withRecords (j.records.put (EntityKey.kind k) (EntityKey.text key)
      (Entity.stored record))).save
    simp [serve, write, Session.exchange, Session.perform, Exchange.isDeed, hsaved]
  rw [Service.run_transact (serve c t) key mutate j j.records (j.write t key) rfl hcommit hsave]
  cases Service.attempt key mutate (j.records.find? (EntityKey.kind k) (EntityKey.text key)) <;> rfl

/-- A run has left the records and the entries as they were. -/
structure Unmoved (j j' : Journal κ) : Prop where
  records : j'.records = j.records
  entries : j'.entries = j.entries

theorem Unmoved.trans {j₁ j₂ j₃ : Journal κ} (h : Unmoved j₁ j₂) (h' : Unmoved j₂ j₃) :
    Unmoved j₁ j₃ :=
  ⟨h'.records.trans h.records, h'.entries.trans h.entries⟩

theorem unmoved_note (n : Notice) (j : Journal κ) : Unmoved j (j.note n) := ⟨rfl, rfl⟩

/-- A request that is no deed leaves the records and the entries alone. -/
theorem unmoved_serve {r : Request} (h : (j.session.exchange c r).isDeed = false) :
    Unmoved j (j.serve c t r).2 := by
  have hwrite : (j.session.exchange c r).write? = none := by
    cases hw : (j.session.exchange c r).write? with
    | none => rfl
    | some w =>
      have hdeed := Exchange.isDeed_of_write (e := j.session.exchange c r) (by rw [hw]; rfl)
      rw [h] at hdeed
      cases hdeed
  refine ⟨?_, by simp [serve, h]⟩
  have hrecords := Session.records_perform c r j.session
  rw [hwrite] at hrecords
  exact hrecords

/-- A service without deeds leaves the records and the entries alone. -/
theorem unmoved_run {α : Type} {service : Service α} (h : service.Quiet) (j : Journal κ) :
    Unmoved j (service.run (serve c t) j).2 := by
  induction service generalizing j with
  | done a => exact ⟨rfl, rfl⟩
  | fail f => exact ⟨rfl, rfl⟩
  | ask r next ih => exact (unmoved_serve (h.1 _ _)).trans (ih _ (h.2 _) _)

end Runs

/-! ## Drains -/

section Drains

variable (c : Cloud κ) (settings : DiscoverySettings) {P : Journal κ → Prop} {Q : Task → Prop}

/-- The journaling handler acts as the handler of the dispatcher does on the session. -/
theorem simulation
    (hrun : ∀ {t j}, Q t → P j → P ((t.execute settings).run (serve c t) j).2)
    (hnote : ∀ {n j}, P j → P (j.note n)) :
    (handler c settings).Simulation (taskHandler (Session.perform c) settings)
      (fun j s => j.session = s ∧ P j) Q (fun outcome => outcome.queued = []) where
  start := by
    rintro t j s ht ⟨rfl, hj⟩
    have hsession := run_session (c := c) (t := t) (t.execute settings) j
    refine ⟨?_, ⟨?_, hrun ht hj⟩, rfl⟩
    · simp [handler, taskHandler, hsession]
    · simp [handler, taskHandler, hsession]
  finish := by
    rintro outcome j s hqueued ⟨rfl, hj⟩
    refine ⟨rfl, ⟨rfl, hj⟩, fun t ht => ?_⟩
    simp only [handler, hqueued] at ht
    cases ht
  note := by
    rintro n j s ⟨rfl, hj⟩
    exact ⟨rfl, hnote hj⟩

/-- **A drain with a journal is the drain of its session**, and what every run of its tasks and
every notice keep holds of it in the end. -/
theorem drain_keeps
    (hrun : ∀ {t j}, Q t → P j → P ((t.execute settings).run (serve c t) j).2)
    (hnote : ∀ {n j}, P j → P (j.note n)) (dispatcher : DispatcherSettings) (session : Session κ)
    {tasks : List Task} (htasks : ∀ t ∈ tasks, Q t) (hstart : P { session }) :
    let j := (drainTasks c settings (.ofTasks dispatcher { session } tasks)).1.state
    j.session = ((Dispatcher.ofTasks dispatcher session tasks).drainTasks (Session.perform c)
      settings).1.state ∧ P j := by
  have hempty : ({ settings := dispatcher, state := { session } } : Dispatcher (Journal κ)).Alike
      (fun j s => j.session = s ∧ P j) Q { settings := dispatcher, state := session } :=
    ⟨rfl, rfl, rfl, rfl, rfl, rfl, rfl, by simp, rfl, hstart⟩
  have hd : (Dispatcher.ofTasks dispatcher ({ session } : Journal κ) tasks).Alike
      (fun j s => j.session = s ∧ P j) Q (.ofTasks dispatcher session tasks) :=
    hempty.enqueueAll htasks
  have hdrained := fun rounds => Dispatcher.drain_alike (simulation c settings hrun hnote) rounds hd
  unfold drainTasks Dispatcher.drainTasks
  rw [hd.settings]
  exact (hdrained _).1.state

end Drains

end Journal

end FleetReconciler
