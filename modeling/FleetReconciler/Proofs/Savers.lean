import FleetReconciler.Proofs.Serial

/-!
# Writers of one file

Any number of puts and transactions work on one store file, in any order of their steps. A writer
writes to memory, waits for the lock of the file, copies the records, replaces the file, and lets go
of the lock.

* `SaveCall`, `SaveStage` — a call, and how far it has come;
* `Savers`, `Savers.turn` — calls at work on one session, and one step of one of them; the states of
  the records, the writes and the replacements of the file are entered in order;
* `Savers.run_alone`, `Savers.run_put_alone` — a call whose steps are not interrupted does what the
  session does.
-/

namespace FleetReconciler

open Service

variable {σ α : Type}

/-! ## Calls and their steps -/

/-- A call that may write, on a record of any type. -/
inductive SaveCall : Type 1 where
  | put {ρ κ : Type} [Entity ρ κ] (r : ρ)
  | transact (t : Transaction)

/-- How far a call has come. -/
inductive SaveStage where
  /-- A put that has not written yet. -/
  | putting (w : Write)
  /-- A service is at work; one that asks for a save waits for the lock. -/
  | working (service : Service Bool)
  /-- It holds the lock, and goes on with the result of its save. -/
  | locked (next : Except Failure Unit → Service Bool)
  /-- It has copied the records as they were at a moment. -/
  | copied (moment : Nat) (records : MemoryStore) (next : Except Failure Unit → Service Bool)
  /-- It has replaced the file, or failed to, and still holds the lock. -/
  | replaced (result : Except Failure Unit) (next : Except Failure Unit → Service Bool)

/-- A write of the call at a place. -/
structure WriteNote where
  place : Nat
  /-- The number of the state of the records that the write has left. -/
  moment : Nat
  write : Write

/-- What is left of a put when it has written: it saves. -/
def savingPut : Service Bool := .ask .save fun saved => lift (saved.map fun _ => true)

/-- Where a call begins. -/
def SaveCall.stage : SaveCall → SaveStage
  | @put _ κ _ r => .putting ⟨EntityKey.kind κ, EntityKey.text (Entity.key r), Entity.stored r⟩
  | transact t => .working t.service

/-- Whether a call has returned. -/
def SaveStage.ended : SaveStage → Bool
  | .working (.done _) | .working (.fail _) => true
  | _ => false

/-- Calls at work on one session. -/
structure Savers (σ : Type) where
  session : Session σ
  /-- The place of the call that holds the lock of the file. -/
  lock : Option Nat := none
  stages : List SaveStage
  /-- The states of the records in order, from that at the start. -/
  history : List MemoryStore
  /-- The writes in order. -/
  wrote : List WriteNote := []
  /-- The replacements of the file in order: the moment of the records, and the result. -/
  saves : List (Nat × Except Failure Unit) := []

namespace Savers

/-- Calls that are about to start on a session. -/
def start (session : Session σ) (calls : List SaveCall) : Savers σ :=
  { session, stages := calls.map SaveCall.stage, history := [session.records] }

/-- The call at a place has come further. -/
def advance (place : Nat) (stage : SaveStage) (s : Savers σ) : Savers σ :=
  { s with stages := s.stages.set place stage }

/-- The call at a place has written. -/
def writing (place : Nat) (w : Write) (session : Session σ) (s : Savers σ) : Savers σ :=
  { s with
    session
    history := s.history ++ [session.records]
    wrote := s.wrote ++ [⟨place, s.history.length, w⟩] }

/-- The file has been replaced by the records of a moment, or this has failed. -/
def saving (moment : Nat) (result : Except Failure Unit) (files : FileTree) (s : Savers σ) :
    Savers σ :=
  { s with session := { s.session with files }, saves := s.saves ++ [(moment, result)] }

/-- One step of the call at a place. A call that waits for the lock while another holds it does
nothing, and neither does one that has returned. -/
def turn (c : Cloud σ) (place : Nat) (s : Savers σ) : Savers σ :=
  match s.stages[place]? with
  | some (.putting w) =>
    (s.writing place w (s.session.withRecords (s.session.records.apply w))).advance place
      (.working savingPut)
  | some (.working (.ask .save next)) =>
    if s.lock = none then { s with lock := some place }.advance place (.locked next) else s
  | some (.working (.ask r next)) =>
    let (reply, session) := s.session.perform c r
    match (s.session.exchange c r).write? with
    | some w => (s.writing place w session).advance place (.working (next reply))
    | none => { s with session }.advance place (.working (next reply))
  | some (.locked next) =>
    s.advance place (.copied (s.history.length - 1) s.session.records next)
  | some (.copied moment records next) =>
    let (result, saved) := (s.session.withRecords records).save
    (s.saving moment result saved.files).advance place (.replaced result next)
  | some (.replaced result next) =>
    { s with lock := none }.advance place (.working (next result))
  | some (.working (.done _)) | some (.working (.fail _)) | none => s

/-- Steps of the calls at the given places, one after another. -/
def run (c : Cloud σ) (turns : List Nat) (s : Savers σ) : Savers σ :=
  turns.foldl (fun s place => s.turn c place) s

/-- No replacement of the file has failed. -/
def AllSaved (s : Savers σ) : Prop := ∀ x ∈ s.saves, x.2 = .ok ()

/-- The moment whose records the file holds: that of the last replacement, or the start. -/
def fileMoment (s : Savers σ) : Nat := ((s.saves.getLast?).map Prod.fst).getD 0

variable {c : Cloud σ} {s : Savers σ} {place : Nat}

theorem getElem?_advance (hplace : s.stages[place]?.isSome) (stage : SaveStage) (q : Nat) :
    (s.advance place stage).stages[q]? = if q = place then some stage else s.stages[q]? := by
  have hlt : place < s.stages.length := by simpa using hplace
  by_cases hq : q = place
  · subst hq
    simp [advance, hlt]
  · simp [advance, hq, Ne.symm hq]

/-! ### One step, stage by stage -/

theorem turn_putting {w : Write} (h : s.stages[place]? = some (.putting w)) :
    s.turn c place = (s.writing place w (s.session.withRecords (s.session.records.apply w))).advance
      place (.working savingPut) := by
  simp only [turn, h]

theorem turn_save {next : Except Failure Unit → Service Bool}
    (h : s.stages[place]? = some (.working (.ask .save next))) :
    s.turn c place =
      if s.lock = none then { s with lock := some place }.advance place (.locked next) else s := by
  simp only [turn, h]

theorem turn_ask {r : Request} (hr : r ≠ .save) {next : r.Reply → Service Bool}
    (h : s.stages[place]? = some (.working (.ask r next))) :
    s.turn c place =
      match (s.session.exchange c r).write? with
      | some w => (s.writing place w (s.session.perform c r).2).advance place
          (.working (next (s.session.perform c r).1))
      | none => { s with session := (s.session.perform c r).2 }.advance place
          (.working (next (s.session.perform c r).1)) := by
  unfold turn
  rw [h]
  cases r with
  | save => exact absurd rfl hr
  | _ => rfl

theorem turn_locked {next : Except Failure Unit → Service Bool}
    (h : s.stages[place]? = some (.locked next)) :
    s.turn c place =
      s.advance place (.copied (s.history.length - 1) s.session.records next) := by
  simp only [turn, h]

theorem turn_copied {moment : Nat} {records : MemoryStore}
    {next : Except Failure Unit → Service Bool}
    (h : s.stages[place]? = some (.copied moment records next)) :
    s.turn c place =
      (s.saving moment (s.session.withRecords records).save.1
        (s.session.withRecords records).save.2.files).advance place
          (.replaced (s.session.withRecords records).save.1 next) := by
  simp only [turn, h]

theorem turn_replaced {result : Except Failure Unit} {next : Except Failure Unit → Service Bool}
    (h : s.stages[place]? = some (.replaced result next)) :
    s.turn c place = { s with lock := none }.advance place (.working (next result)) := by
  simp only [turn, h]

/-! ### A call alone -/

theorem run_append (c : Cloud σ) (turns more : List Nat) (s : Savers σ) :
    s.run c (turns ++ more) = (s.run c turns).run c more := List.foldl_append

end Savers

/-- Where a service ends that has come to a result. -/
def endOf : Except Failure α → Service α
  | .ok a => .done a
  | .error f => .fail f

namespace Session

theorem save_files (s : Session σ) : { s with files := s.save.2.files } = s.save.2 := by
  obtain ⟨backend, _, _, _, _, _, _, _, _⟩ := s
  cases backend with
  | memory store => rfl
  | file store => simp only [save]

end Session

namespace Savers

theorem run_replicate_succ (c : Cloud σ) (place n : Nat) (s : Savers σ) :
    s.run c (List.replicate (n + 1) place) = (s.turn c place).run c (List.replicate n place) := rfl

/-- A save whose four steps are not interrupted is the save of the session. -/
theorem run_save_alone (c : Cloud σ) {place : Nat} {next : Except Failure Unit → Service Bool}
    {s : Savers σ} (hplace : s.stages[place]? = some (.working (.ask .save next)))
    (hlock : s.lock = none) :
    let s' := s.run c (List.replicate 4 place)
    s'.session = s.session.save.2 ∧ s'.lock = none ∧
      s'.stages[place]? = some (.working (next s.session.save.1)) := by
  obtain ⟨s₁, hs₁⟩ : ∃ s₁, s₁ = { s with lock := some place }.advance place (.locked next) :=
    ⟨_, rfl⟩
  have hturn₁ : s.turn c place = s₁ := by rw [turn_save hplace, if_pos hlock, hs₁]
  have hsession₁ : s₁.session = s.session := by rw [hs₁]; rfl
  have hplace₁ : s₁.stages[place]? = some (.locked next) := by
    rw [hs₁, getElem?_advance (by simp [hplace]), if_pos rfl]
  obtain ⟨s₂, hs₂⟩ : ∃ s₂, s₂ = s₁.advance place
    (.copied (s₁.history.length - 1) s₁.session.records next) := ⟨_, rfl⟩
  have hturn₂ : s₁.turn c place = s₂ := by rw [turn_locked hplace₁, hs₂]
  have hsession₂ : s₂.session = s.session := by rw [hs₂]; exact hsession₁
  have hplace₂ : s₂.stages[place]? =
      some (.copied (s₁.history.length - 1) s.session.records next) := by
    rw [hs₂, getElem?_advance (by simp [hplace₁]), if_pos rfl, hsession₁]
  have hturn₃ := turn_copied (c := c) hplace₂
  rw [hsession₂, Session.withRecords_self] at hturn₃
  obtain ⟨s₃, hs₃⟩ : ∃ s₃, s₃ = s₂.turn c place := ⟨_, rfl⟩
  have hplace₃ : s₃.stages[place]? = some (.replaced s.session.save.1 next) := by
    rw [hs₃, hturn₃, getElem?_advance (by simp [saving, hplace₂]), if_pos rfl]
  have hsession₃ : s₃.session = s.session.save.2 := by
    rw [hs₃, hturn₃]
    show { s₂.session with files := s.session.save.2.files } = _
    rw [hsession₂, Session.save_files]
  intro s'
  have hrun : s' = { s₃ with lock := none }.advance place (.working (next s.session.save.1)) := by
    show s.run c (List.replicate 4 place) = _
    rw [run_replicate_succ, hturn₁, run_replicate_succ, hturn₂, run_replicate_succ, ← hs₃,
      run_replicate_succ, turn_replaced hplace₃]
    rfl
  rw [hrun]
  refine ⟨hsession₃, rfl, ?_⟩
  rw [getElem?_advance (by simp [hplace₃]), if_pos rfl]

/-- **A service whose steps are not interrupted does what the session does when it serves it.** -/
theorem run_alone (c : Cloud σ) (place : Nat) (service : Service Bool) {s : Savers σ}
    (hplace : s.stages[place]? = some (.working service)) (hlock : s.lock = none) :
    ∃ n, let s' := s.run c (List.replicate n place)
      s'.session = (s.session.serve c service).2 ∧ s'.lock = none ∧
        s'.stages[place]? = some (.working (endOf (s.session.serve c service).1)) := by
  induction service generalizing s with
  | done a => exact ⟨0, rfl, hlock, hplace⟩
  | fail f => exact ⟨0, rfl, hlock, hplace⟩
  | ask r next ih =>
    -- some turns take the service to what follows the request
    obtain ⟨n, hsession, hlock', hplace'⟩ : ∃ n, let s' := s.run c (List.replicate n place)
        s'.session = (s.session.perform c r).2 ∧ s'.lock = none ∧
          s'.stages[place]? = some (.working (next (s.session.perform c r).1)) := by
      by_cases hr : r = .save
      · subst hr
        exact ⟨4, run_save_alone c hplace hlock⟩
      · refine ⟨1, ?_⟩
        show (s.turn c place).session = _ ∧ (s.turn c place).lock = _ ∧
          (s.turn c place).stages[place]? = _
        rw [turn_ask hr hplace]
        cases (s.session.exchange c r).write? with
        | none => exact ⟨rfl, hlock, by rw [getElem?_advance (by simp [hplace]), if_pos rfl]⟩
        | some w =>
          refine ⟨rfl, hlock, ?_⟩
          rw [getElem?_advance (by simp [writing, hplace]), if_pos rfl]
    obtain ⟨m, hend⟩ := ih _ hplace' hlock'
    refine ⟨n + m, ?_⟩
    rw [hsession] at hend
    rwa [← List.replicate_append_replicate, run_append]

/-- **A put whose steps are not interrupted is the put of the session.** -/
theorem run_put_alone (c : Cloud σ) (place : Nat) {ρ κ : Type} [Entity ρ κ] (r : ρ) {s : Savers σ}
    (hplace : s.stages[place]? = some (SaveCall.put r).stage) (hlock : s.lock = none) :
    ∃ n, let s' := s.run c (List.replicate n place)
      s'.session = (s.session.put r).2 ∧ s'.lock = none ∧
        s'.stages[place]? = some (.working (endOf ((s.session.put r).1.map fun _ => true))) := by
  have hturn := turn_putting (c := c) hplace
  obtain ⟨s₁, hs₁⟩ : ∃ s₁, s₁ = s.turn c place := ⟨_, rfl⟩
  have hplace₁ : s₁.stages[place]? = some (.working savingPut) := by
    rw [hs₁, hturn, getElem?_advance (by simp [writing, hplace]), if_pos rfl]
  have hlock₁ : s₁.lock = none := by rw [hs₁, hturn]; exact hlock
  obtain ⟨n, hsession, hlock', hend⟩ := run_alone c place savingPut hplace₁ hlock₁
  have hsave (t : Session σ) : t.serve c savingPut = (t.save.1.map fun _ => true, t.save.2) := by
    unfold Session.serve savingPut
    rw [run_ask, run_lift]
    rfl
  have hsession₁ : s₁.session = s.session.withRecords (s.session.records.put (EntityKey.kind κ)
      (EntityKey.text (Entity.key r)) (Entity.stored r)) := by
    rw [hs₁, hturn]
    rfl
  have hserve : s₁.session.serve c savingPut =
      ((s.session.put r).1.map fun _ => true, (s.session.put r).2) := by
    rw [hsave, hsession₁, Session.put]
  rw [hserve] at hsession hend
  refine ⟨1 + n, ?_⟩
  rw [Nat.add_comm, run_replicate_succ, ← hs₁]
  exact ⟨hsession, hlock', hend⟩

end Savers

end FleetReconciler
