import FleetReconciler.Proofs.DurableAnswers

/-!
# A store in a file and a store in memory

As long as no save fails, a store in a file answers as a store in memory does: every write is saved
at once, the file holds the values that are in memory, and no answer depends on the versions, which
start anew when the file is opened again.

* `Watched` — a session with the results of its saves;
* `StoreStep`, `StoreStep.run` — what can be asked of a store;
* `StoreStep.run_eq` — a step answers, or writes and saves, or opens the store again, and the values
  that are stored decide which (`StoreStep.plan_congr`);
* `Watched.Mirrors`, `Watched.Alike` — pairs of sessions that answer alike;
* `file_answers_as_memory` — **every answer and all contents are the same**, also when the file is
  opened again in between.
-/

namespace FleetReconciler

open Service

variable {σ : Type}

/-! ## Sessions whose saves are watched -/

/-- A session with the results of its saves so far. -/
structure Watched (σ : Type) where
  session : Session σ
  saves : List (Except Failure Unit) := []

namespace Watched

/-- Saves, and notes the result. -/
def save (w : Watched σ) : Except Failure Unit × Watched σ :=
  let (r, session) := w.session.save
  (r, ⟨session, w.saves ++ [r]⟩)

/-- Performs a request, and notes the result if it is a save. -/
def perform (c : Cloud σ) : (r : Request) → Watched σ → r.Reply × Watched σ
  | .save, w => w.save
  | r, w =>
    let (reply, session) := Session.perform c r w.session
    (reply, { w with session })

/-- Watching a service changes nothing of what it does. -/
theorem serve_session {α : Type} (c : Cloud σ) (service : Service α) (w : Watched σ) :
    w.session.serve c service =
      ((service.run (perform c) w).1, (service.run (perform c) w).2.session) :=
  run_map session (fun r _ => by cases r <;> rfl) service w

/-- Writes a value to memory, if one is given. -/
def write (written : Option Write) (w : Watched σ) : Watched σ :=
  match written with
  | none => w
  | some x => { w with
      session := w.session.withRecords (w.session.records.put x.kind x.id x.value) }

/-- No save has failed. -/
def AllSaved (w : Watched σ) : Prop := ∀ r ∈ w.saves, r = .ok ()

end Watched

/-! ## Steps -/

/-- What can be asked of a store. -/
inductive StoreStep : Type 1 where
  /-- Write a record whatever is there. -/
  | put {ρ κ : Type} [Entity ρ κ] [StorableEntity ρ] (r : ρ)
  /-- The record with a key. -/
  | get (ρ : Type) {κ : Type} [Entity ρ κ] (key : κ)
  /-- All records of a type. -/
  | query (ρ : Type) {κ : Type} [Entity ρ κ]
  | transact {ρ κ β : Type} [Entity ρ κ] [StorableEntity ρ] [DecidableEq ρ] (key : κ)
    (mutate : Option ρ → Option ρ × β)
  /-- Save what is there. -/
  | flush
  /-- Load the store again from where it is kept. -/
  | reopen

namespace StoreStep

/-- The type of the answer to a step. -/
@[reducible]
def Answer : StoreStep → Type
  | put _ => Except Failure Unit
  | get ρ _ => Except Failure (Option ρ)
  | query ρ => Except Failure (List ρ)
  | @transact _ _ β _ _ _ _ _ => Except Failure β
  | flush => Except Failure Unit
  | reopen => Except Failure Unit

/-- Makes a step. -/
def run (c : Cloud σ) : (step : StoreStep) → Watched σ → step.Answer × Watched σ
  | put r, w =>
    let (saved, session) := w.session.put r
    (saved, ⟨session, w.saves ++ [saved]⟩)
  | get ρ key, w => (lookup ρ key).run (Watched.perform c) w
  | query ρ, w => (Service.records ρ).run (Watched.perform c) w
  | transact key mutate, w =>
    let (r, w) := (Service.transact key mutate).run (Watched.perform c) w
    (r.map Committed.value, w)
  | flush, w => w.save
  | reopen, w =>
    let (r, session) := w.session.reopen
    (r, { w with session })

end StoreStep

/-- What a step comes to. -/
inductive Plan (α : Type) where
  | answer (a : α)
  /-- Write a value, if one is given, and save. -/
  | save (written : Option Write) (finish : Except Failure Unit → α)
  /-- Load the store again. -/
  | reload (finish : Except Failure Unit → α)

/-- Does what a step comes to. -/
def Plan.carryOut {α : Type} (w : Watched σ) : Plan α → α × Watched σ
  | answer a => (a, w)
  | save written finish =>
    let (r, w) := (w.write written).save
    (finish r, w)
  | reload finish =>
    let (r, session) := w.session.reopen
    (finish r, { w with session })

namespace StoreStep

/-- What a step comes to, on given records. -/
def plan (records : MemoryStore) : (step : StoreStep) → Plan step.Answer
  | @put _ κ _ _ r =>
    .save (some ⟨EntityKey.kind κ, EntityKey.text (Entity.key r), Entity.stored r⟩) id
  | get ρ key => .answer (records.read ρ key)
  | @query ρ κ _ => .answer ((records.rows (EntityKey.kind κ)).mapM fun (id, value) =>
      decodeRecord (ρ := ρ) (EntityKey.kind κ) id value)
  | @transact _ κ _ _ _ _ key mutate =>
    match attempt key mutate (records.find? (EntityKey.kind κ) (EntityKey.text key)) with
    | .stop r => .answer (r.map Committed.value)
    | .write _ r value =>
      .save (some ⟨EntityKey.kind κ, EntityKey.text key, Entity.stored r⟩)
        (Except.map fun _ => value)
  | flush => .save none id
  | reopen => .reload id

theorem run_get (c : Cloud σ) (ρ : Type) {κ : Type} [Entity ρ κ] (key : κ) (w : Watched σ) :
    (get ρ key).run c w = (w.session.records.read ρ key, w) := by
  simp only [run]
  rw [lookup_eq, request_bind, run_ask]
  show (lift (.ok _) >>= _ : Service _).run _ _ = _
  rw [lift_ok_bind, run_lift]
  rfl

theorem run_query (c : Cloud σ) (ρ : Type) {κ : Type} [Entity ρ κ] (w : Watched σ) :
    (query ρ).run c w =
      ((w.session.records.rows (EntityKey.kind κ)).mapM fun (id, value) =>
        decodeRecord (EntityKey.kind κ) id value, w) := by
  show (lift ((w.session.records.rows (EntityKey.kind κ)).mapM fun (id, value) =>
    decodeRecord (EntityKey.kind κ) id value) : Service (List ρ)).run _ _ = _
  rw [run_lift]

theorem run_transact (c : Cloud σ) {ρ κ β : Type} [Entity ρ κ] [StorableEntity ρ] [DecidableEq ρ]
    (key : κ) (mutate : Option ρ → Option ρ × β) (w : Watched σ) :
    (transact key mutate).run c w =
      ((transact key mutate).plan w.session.records).carryOut w := by
  have hrun := run_transact_saving (Watched.perform c) key mutate w w.session.records
    (fun r => w.write (some ⟨EntityKey.kind κ, EntityKey.text key, Entity.stored r⟩)) rfl
    fun r _ => by simp [Watched.perform, Session.perform, MemoryStore.commit_eq, Watched.write]
  simp only [run, plan, hrun]
  cases attempt key mutate (w.session.records.find? (EntityKey.kind κ) (EntityKey.text key)) with
  | stop r => rfl
  | write version r value =>
    simp only [Plan.carryOut, Watched.perform]
    cases (w.write (some ⟨EntityKey.kind κ, EntityKey.text key, Entity.stored r⟩)).save with
    | mk saved t => cases saved <;> rfl

/-- **A step answers from the records, or writes and saves, or loads the store again.** -/
theorem run_eq (c : Cloud σ) (step : StoreStep) (w : Watched σ) :
    step.run c w = (step.plan w.session.records).carryOut w := by
  cases step with
  | put r => simp only [run, plan, Plan.carryOut, Session.put, Watched.write, Watched.save, id]
  | get ρ key => rw [run_get, plan, Plan.carryOut]
  | query ρ => rw [run_query, plan, Plan.carryOut]
  | transact key mutate => exact run_transact c key mutate w
  | flush => simp only [run, plan, Plan.carryOut, Watched.write, id]
  | reopen => simp only [run, plan, Plan.carryOut, id]

/-! ### Versions do not matter -/

section Values

variable {ρ κ β : Type} [Entity ρ κ]

theorem value_congr {s t : MemoryStore} (h : s.snapshot = t.snapshot) (kind : Kind) (id : String) :
    (s.find? kind id).map Stored.value = (t.find? kind id).map Stored.value := by
  rw [← MemoryStore.get?_rows, ← MemoryStore.snapshot_table, h, MemoryStore.snapshot_table,
    MemoryStore.get?_rows]

/-- What is decoded of a stored value apart from its version. -/
theorem decodeStored_congr {found found' : Option Stored}
    (h : found.map Stored.value = found'.map Stored.value) (kind : Kind) (id : String) :
    (decodeStored (ρ := ρ) kind id found).map Prod.snd =
      (decodeStored kind id found').map Prod.snd := by
  cases found with
  | none =>
    cases found' with
    | none => rfl
    | some y => cases h
  | some x =>
    cases found' with
    | none => cases h
    | some y =>
      have hvalue : x.value = y.value := Option.some.inj h
      simp only [decodeStored, hvalue]
      cases decodeRecord (ρ := ρ) kind id y.value <;> rfl

variable [DecidableEq ρ]

/-- What a transaction decides apart from the version on which it writes. -/
theorem attempt_congr {γ : Type} (key : κ) (mutate : Option ρ → Option ρ × β)
    (stop : Except Failure (Committed β) → γ) (write : ρ → β → γ) {found found' : Option Stored}
    (h : found.map Stored.value = found'.map Stored.value) :
    (match attempt key mutate found with
      | .stop r => stop r
      | .write _ r value => write r value) =
    match attempt key mutate found' with
      | .stop r => stop r
      | .write _ r value => write r value := by
  have hdecoded := decodeStored_congr (ρ := ρ) h (EntityKey.kind κ) (EntityKey.text key)
  unfold attempt
  cases hfound : decodeStored (ρ := ρ) (EntityKey.kind κ) (EntityKey.text key) found with
  | error f =>
    cases hfound' : decodeStored (ρ := ρ) (EntityKey.kind κ) (EntityKey.text key) found' with
    | error f' =>
      rw [hfound, hfound'] at hdecoded
      cases hdecoded
      rfl
    | ok p' =>
      rw [hfound, hfound'] at hdecoded
      cases hdecoded
  | ok p =>
    cases hfound' : decodeStored (ρ := ρ) (EntityKey.kind κ) (EntityKey.text key) found' with
    | error f' =>
      rw [hfound, hfound'] at hdecoded
      cases hdecoded
    | ok p' =>
      rw [hfound, hfound'] at hdecoded
      obtain ⟨version, current⟩ := p
      obtain ⟨version', current'⟩ := p'
      obtain rfl : current = current' := Except.ok.inj hdecoded
      simp only
      cases nextRecord key current (mutate current).1 with
      | error f => rfl
      | ok next => cases next <;> rfl

end Values

/-- **What a step comes to depends on the stored values alone**, not on their versions. -/
theorem plan_congr (step : StoreStep) {s t : MemoryStore} (h : s.snapshot = t.snapshot) :
    step.plan s = step.plan t := by
  cases step with
  | put r => rfl
  | get ρ key =>
    simp only [plan, MemoryStore.read]
    rw [decodeStored_congr (value_congr h _ _)]
  | query ρ => simp only [plan, ← MemoryStore.snapshot_table, h]
  | transact key mutate => exact attempt_congr key mutate _ _ (value_congr h _ _)
  | flush => rfl
  | reopen => rfl

/-- What a step writes is read back from a file. -/
theorem storable_of_plan (step : StoreStep) {records : MemoryStore} {written : Write}
    {finish : Except Failure Unit → step.Answer}
    (h : step.plan records = .save (some written) finish) :
    written.value.Storable Entity.depth := by
  cases step with
  | put r =>
    cases h
    exact StorableEntity.storable_stored r
  | transact key mutate =>
    simp only [plan] at h
    split at h
    · cases h
    · cases h
      exact StorableEntity.storable_stored _
  | get ρ key => cases h
  | query ρ => cases h
  | flush => cases h
  | reopen => cases h

end StoreStep

/-! ## What a step keeps -/

namespace Session

variable {s : Session σ} {path : String}

/-- A save on a file, spelled out. -/
theorem save_eq (h : s.backend = .file ⟨path, s.records⟩) :
    s.save = ((FileStore.replaceFile path s.records.snapshot none s.files).1,
      { s with files := (FileStore.replaceFile path s.records.snapshot none s.files).2 }) := by
  unfold save
  simp only [h, FileStore.save]

theorem backend_save (s : Session σ) : s.save.2.backend = s.backend := by
  unfold save
  cases hbackend : s.backend with
  | memory store => exact hbackend
  | file store => rfl

/-- A file is opened again, spelled out. -/
theorem reopen_eq (h : s.backend = .file ⟨path, s.records⟩) :
    s.reopen = match FileStore.load path s.files with
      | .ok store => (.ok (), { s with backend := .file store })
      | .error f => (.error f, s) := by
  unfold reopen reloaded
  simp only [h]
  cases FileStore.load path s.files <;> rfl

end Session

namespace Watched

variable {path : String} {w w' m : Watched σ} {α : Type}

theorem records_save (w : Watched σ) : w.save.2.session.records = w.session.records := by
  have hrecords := Session.records_saveRefusing none w.session
  rwa [Session.saveRefusing_none] at hrecords

theorem snapshot_write (written : Option Write) (w : Watched σ) :
    (w.write written).session.records.snapshot = match written with
      | none => w.session.records.snapshot
      | some x => w.session.records.snapshot.put x.kind x.id x.value := by
  cases written with
  | none => rfl
  | some x => rw [write, Session.records_withRecords, MemoryStore.snapshot_put]

theorem onFile_write (h : w.session.OnFile path) (written : Option Write)
    (hstorable : ∀ x, written = some x → x.value.Storable Entity.depth) :
    (w.write written).session.OnFile path := by
  cases written with
  | none => exact h
  | some x =>
    constructor
    · rw [write, Session.records_withRecords, Session.withRecords, h.backend]
      rfl
    · rw [snapshot_write]
      exact h.storable.put _ _ (hstorable x rfl)

/-- A session on a file that holds the values of the session. -/
structure UpToDate (path : String) (w : Watched σ) : Prop where
  onFile : w.session.OnFile path
  opens : FileStore.load path w.session.files = .ok ⟨path, .ofSnapshot w.session.records.snapshot⟩

/-- After a save that succeeds, the file is up to date. -/
theorem upToDate_save (h : w.session.OnFile path) (hsaved : w.save.1 = .ok ()) :
    w.save.2.UpToDate path := by
  have hsave : w.session.saveRefusing none = (.ok (), w.save.2.session) := by
    rw [Session.saveRefusing_none]
    exact Prod.ext hsaved rfl
  have honFile := h.saveRefusing none
  rw [hsave] at honFile
  exact ⟨honFile, (h.of_saved hsave).opens⟩

/-- A file that is up to date is opened with the values that are in memory. -/
theorem UpToDate.reopen (h : w.UpToDate path) : w.session.reopen =
    (.ok (), { w.session with
      backend := .file ⟨path, .ofSnapshot w.session.records.snapshot⟩ }) := by
  rw [Session.reopen_eq h.onFile.backend, h.opens]

theorem UpToDate.reopened (h : w.UpToDate path) :
    ({ w with session := w.session.reopen.2 } : Watched σ).UpToDate path := by
  rw [h.reopen]
  have hvalues := MemoryStore.snapshot_ofSnapshot w.session.records.snapshot
  constructor
  · refine ⟨rfl, ?_⟩
    show (MemoryStore.ofSnapshot w.session.records.snapshot).snapshot.Storable
    rw [hvalues]
    exact h.onFile.storable
  · show FileStore.load path w.session.files =
      .ok ⟨path, .ofSnapshot (MemoryStore.ofSnapshot w.session.records.snapshot).snapshot⟩
    rw [hvalues]
    exact h.opens

/-! ### A file and memory -/

/-- A session on a file that is up to date, and one in memory with the same values. -/
structure Mirrors (path : String) (w m : Watched σ) : Prop where
  upToDate : w.UpToDate path
  memory : m.session.backend = .memory m.session.records
  values : w.session.records.snapshot = m.session.records.snapshot

/-- **Whatever a step comes to, it has the same answer on a file and in memory**, and leaves them
with the same values, unless its save fails. -/
theorem Mirrors.carryOut (h : Mirrors path w m) (plan : Plan α)
    (hstorable : ∀ x finish, plan = .save (some x) finish → x.value.Storable Entity.depth)
    (hsaved : (plan.carryOut w).2.AllSaved) :
    (plan.carryOut w).1 = (plan.carryOut m).1 ∧
      Mirrors path (plan.carryOut w).2 (plan.carryOut m).2 := by
  cases plan with
  | answer a => exact ⟨rfl, h⟩
  | save written finish =>
    have honFile := onFile_write h.upToDate.onFile written fun x hx => hstorable x finish (hx ▸ rfl)
    have hok : (w.write written).save.1 = .ok () := hsaved _ (List.mem_append_right _ List.mem_cons_self)
    have hmemory : (m.write written).session.backend = .memory (m.write written).session.records := by
      cases written with
      | none => exact h.memory
      | some x =>
        rw [write, Session.records_withRecords, Session.withRecords, h.memory]
        rfl
    have hsave : (m.write written).session.save = (.ok (), (m.write written).session) := by
      unfold Session.save
      rw [hmemory]
    refine ⟨?_, upToDate_save honFile hok, ?_, ?_⟩
    · simp only [Plan.carryOut, hok]
      simp only [Watched.save, hsave]
    · simpa only [Plan.carryOut, Watched.save, hsave] using hmemory
    · simp only [Plan.carryOut, records_save, snapshot_write, h.values]
  | reload finish =>
    have hreopen : m.session.reopen = (.ok (), { m.session with
        backend := .memory (.ofSnapshot m.session.records.snapshot) }) := by
      unfold Session.reopen Session.reloaded
      rw [h.memory]
    refine ⟨?_, h.upToDate.reopened, ?_, ?_⟩
    · simp only [Plan.carryOut, h.upToDate.reopen, hreopen]
    · simp only [Plan.carryOut, hreopen, Session.records, Backend.records]
    · simp only [Plan.carryOut, h.upToDate.reopen, hreopen]
      show (MemoryStore.ofSnapshot w.session.records.snapshot).snapshot =
        (MemoryStore.ofSnapshot m.session.records.snapshot).snapshot
      rw [h.values]

/-! ### Two sessions on one file -/

/-- Two sessions on the same file with the same values, where all saves went alike. -/
structure Alike (path : String) (w w' : Watched σ) : Prop where
  left : w.session.backend = .file ⟨path, w.session.records⟩
  right : w'.session.backend = .file ⟨path, w'.session.records⟩
  values : w.session.records.snapshot = w'.session.records.snapshot
  files : w.session.files = w'.session.files
  saves : w.saves = w'.saves

theorem Alike.save (h : Alike path w w') :
    w.save.1 = w'.save.1 ∧ Alike path w.save.2 w'.save.2 := by
  have hleft := Session.save_eq h.left
  have hright := Session.save_eq h.right
  rw [← h.values, ← h.files] at hright
  have hsame : w.save.1 = w'.save.1 := by
    simp only [Watched.save, hleft, hright]
  refine ⟨hsame, ?_, ?_, ?_, ?_, ?_⟩
  · rw [records_save, ← h.left]
    exact w.session.backend_save
  · rw [records_save, ← h.right]
    exact w'.session.backend_save
  · rw [records_save, records_save, h.values]
  · simp only [Watched.save, hleft, hright]
  · show w.saves ++ [w.save.1] = w'.saves ++ [w'.save.1]
    rw [h.saves, hsame]

/-- **Whatever a step comes to, it has the same answer on both**, and its save goes alike. -/
theorem Alike.carryOut (h : Alike path w w') (plan : Plan α) :
    (plan.carryOut w).1 = (plan.carryOut w').1 ∧
      Alike path (plan.carryOut w).2 (plan.carryOut w').2 := by
  cases plan with
  | answer a => exact ⟨rfl, h⟩
  | save written finish =>
    have hwritten : Alike path (w.write written) (w'.write written) := by
      refine ⟨?_, ?_, by rw [snapshot_write, snapshot_write, h.values], ?_, ?_⟩
      · cases written with
        | none => exact h.left
        | some x => rw [write, Session.records_withRecords, Session.withRecords, h.left]; rfl
      · cases written with
        | none => exact h.right
        | some x => rw [write, Session.records_withRecords, Session.withRecords, h.right]; rfl
      · cases written <;> exact h.files
      · cases written <;> exact h.saves
    simp only [Plan.carryOut]
    have hsame := hwritten.save
    exact ⟨congrArg finish hsame.1, hsame.2⟩
  | reload finish =>
    have hleft := Session.reopen_eq h.left
    have hright := Session.reopen_eq h.right
    rw [← h.files] at hright
    simp only [Plan.carryOut]
    cases hload : FileStore.load path w.session.files with
    | error f =>
      rw [hload] at hleft hright
      rw [hleft, hright]
      exact ⟨rfl, h⟩
    | ok store =>
      rw [hload] at hleft hright
      rw [hleft, hright]
      obtain ⟨snapshot, rfl, -⟩ := FileStore.eq_of_load hload
      exact ⟨rfl, rfl, rfl, rfl, rfl, h.saves⟩

end Watched

/-! ## Runs -/

namespace StoreStep

/-- Makes steps one after another. -/
def runAll (c : Cloud σ) (steps : List StoreStep) (w : Watched σ) : Watched σ :=
  steps.foldl (fun w step => (step.run c w).2) w

theorem runAll_nil (c : Cloud σ) (w : Watched σ) : runAll c [] w = w := rfl

theorem runAll_cons (c : Cloud σ) (step : StoreStep) (steps : List StoreStep) (w : Watched σ) :
    runAll c (step :: steps) w = runAll c steps (step.run c w).2 := rfl

theorem runAll_append (c : Cloud σ) (steps more : List StoreStep) (w : Watched σ) :
    runAll c (steps ++ more) w = runAll c more (runAll c steps w) := List.foldl_append

/-- The answers to steps, each with the values that are stored after it. -/
def trace (c : Cloud σ) : List StoreStep → Watched σ →
    List ((step : StoreStep) × step.Answer × Snapshot)
  | [], _ => []
  | step :: steps, w =>
    ⟨step, (step.run c w).1, (step.run c w).2.session.records.snapshot⟩ ::
      trace c steps (step.run c w).2

variable {c : Cloud σ} {path : String} {w w' m : Watched σ}

/-- The results of the saves so far are kept. -/
theorem saves_run (c : Cloud σ) (step : StoreStep) (w : Watched σ) :
    w.saves <+: (step.run c w).2.saves := by
  rw [run_eq]
  cases step.plan w.session.records with
  | answer a => exact List.prefix_refl _
  | save written finish =>
    refine ⟨[(w.write written).save.1], ?_⟩
    cases written <;> rfl
  | reload finish => exact List.prefix_refl _

theorem saves_runAll (c : Cloud σ) (steps : List StoreStep) (w : Watched σ) :
    w.saves <+: (runAll c steps w).saves := by
  induction steps generalizing w with
  | nil => exact List.prefix_refl _
  | cons step steps ih => exact (saves_run c step w).trans (ih _)

/-- One step on a file and in memory. -/
theorem mirrors_run (h : w.Mirrors path m) (step : StoreStep)
    (hsaved : (step.run c w).2.AllSaved) :
    (step.run c w).1 = (step.run c m).1 ∧ (step.run c w).2.Mirrors path (step.run c m).2 := by
  rw [run_eq] at hsaved
  rw [run_eq, run_eq, ← plan_congr step h.values]
  exact h.carryOut _ (fun _ _ => storable_of_plan step) hsaved

/-- **Steps on a file and in memory** have the same answers and leave the same values, unless a save
fails. -/
theorem mirrors_runAll (h : w.Mirrors path m) (steps : List StoreStep)
    (hsaved : (runAll c steps w).AllSaved) :
    trace c steps w = trace c steps m ∧ (runAll c steps w).Mirrors path (runAll c steps m) := by
  induction steps generalizing w m with
  | nil => exact ⟨rfl, h⟩
  | cons step steps ih =>
    have hfirst : (step.run c w).2.AllSaved := fun r hr =>
      hsaved r ((saves_runAll c steps _).subset hr)
    obtain ⟨hanswer, hmirrors⟩ := mirrors_run h step hfirst
    obtain ⟨htrace, hend⟩ := ih hmirrors hsaved
    exact ⟨by rw [trace, trace, hanswer, hmirrors.values, htrace], hend⟩

/-- **Steps on two sessions on one file** have the same answers, and their saves go alike. -/
theorem alike_runAll (h : w.Alike path w') (steps : List StoreStep) :
    trace c steps w = trace c steps w' ∧ (runAll c steps w).Alike path (runAll c steps w') := by
  induction steps generalizing w w' with
  | nil => exact ⟨rfl, h⟩
  | cons step steps ih =>
    have hstep : (step.run c w).1 = (step.run c w').1 ∧
        (step.run c w).2.Alike path (step.run c w').2 := by
      rw [run_eq, run_eq, ← plan_congr step h.values]
      exact h.carryOut _
    obtain ⟨hanswer, halike⟩ := hstep
    obtain ⟨htrace, hend⟩ := ih halike
    exact ⟨by rw [trace, trace, hanswer, halike.values, htrace], hend⟩

end StoreStep

/-- **A store in a file answers as one in memory**, with the same values after every step, as long
as no save fails. A store that is opened again at any moment gives the same answers from then on,
and its saves go as they would have gone. -/
theorem file_answers_as_memory (c : Cloud σ) {path : String} {store : FileStore} (s t : Session σ)
    (hopened : FileStore.load path s.files = .ok store)
    (hstorable : store.memory.snapshot.Storable) (steps : List StoreStep)
    (hsaved : (StoreStep.runAll c steps ⟨{ s with backend := .file store }, []⟩).AllSaved) :
    let file : Watched σ := ⟨{ s with backend := .file store }, []⟩
    let memory : Watched σ := ⟨{ t with backend := .memory (.ofSnapshot store.memory.snapshot) }, []⟩
    StoreStep.trace c steps file = StoreStep.trace c steps memory ∧
    ∀ before after, steps = before ++ after →
      let then' := StoreStep.runAll c before file
      let reopened := StoreStep.reopen.run c then'
      reopened.1 = .ok () ∧ StoreStep.trace c after reopened.2 = StoreStep.trace c after then' ∧
        (StoreStep.runAll c after reopened.2).saves = (StoreStep.runAll c after then').saves := by
  intro file memory
  obtain ⟨snapshot, rfl, -⟩ := FileStore.eq_of_load hopened
  have hvalues : (MemoryStore.ofSnapshot snapshot).snapshot = snapshot :=
    MemoryStore.snapshot_ofSnapshot snapshot
  have hstart : file.Mirrors path memory := by
    refine ⟨⟨⟨rfl, hstorable⟩, ?_⟩, rfl, ?_⟩
    · show FileStore.load path s.files =
        .ok ⟨path, .ofSnapshot (MemoryStore.ofSnapshot snapshot).snapshot⟩
      rw [hvalues]
      exact hopened
    · show (MemoryStore.ofSnapshot snapshot).snapshot =
        (MemoryStore.ofSnapshot (MemoryStore.ofSnapshot snapshot).snapshot).snapshot
      rw [hvalues, hvalues]
  refine ⟨(StoreStep.mirrors_runAll hstart steps hsaved).1, ?_⟩
  rintro before after rfl
  intro then' reopened
  have hbefore : then'.AllSaved := fun r hr => hsaved r <| by
    rw [StoreStep.runAll_append]
    exact (StoreStep.saves_runAll c after then').subset hr
  have hcurrent := (StoreStep.mirrors_runAll hstart before hbefore).2.upToDate
  have hanswer : reopened.1 = .ok () := congrArg Prod.fst hcurrent.reopen
  have hreopened : reopened.2 = { then' with session := then'.session.reopen.2 } := rfl
  have halike : Watched.Alike path reopened.2 then' := by
    rw [hreopened, hcurrent.reopen]
    exact ⟨rfl, hcurrent.onFile.backend, MemoryStore.snapshot_ofSnapshot _, rfl, rfl⟩
  obtain ⟨htrace, hend⟩ := StoreStep.alike_runAll halike after
  exact ⟨hanswer, htrace, hend.saves⟩

/-- Steps on a store that does not exist yet: an instance is put, and the instances are queried after
the store was opened again. -/
def Sample.steps : List StoreStep := [.put Sample.machine, .reopen, .query Instance]

/-- The store that is not there yet. -/
def Sample.unmade : FileStore := ⟨"store.json", {}⟩

/-- Of the steps only the first saves. -/
theorem Sample.allSaved_steps (w : Watched CloudScript)
    (hput : ((StoreStep.put machine).run CloudScript.cloud w).2.AllSaved) :
    (StoreStep.runAll CloudScript.cloud steps w).AllSaved := by
  have hreopen (w : Watched CloudScript) :
      (StoreStep.reopen.run CloudScript.cloud w).2.saves = w.saves := rfl
  rw [steps, StoreStep.runAll_cons, StoreStep.runAll_cons, StoreStep.runAll_cons,
    StoreStep.runAll_nil, StoreStep.run_query]
  intro r hr
  rw [hreopen] at hr
  exact hput r hr

/-- The steps are answered by a new store file as by a new store in memory. -/
theorem new_file_answers_as_memory :
    let file : Watched CloudScript := ⟨{ Sample.fresh with backend := .file Sample.unmade }, []⟩
    let memory : Watched CloudScript :=
      ⟨{ Sample.session with backend := .memory (.ofSnapshot Sample.unmade.memory.snapshot) }, []⟩
    FileStore.load "store.json" Sample.fresh.files = .ok Sample.unmade ∧
      (StoreStep.runAll CloudScript.cloud Sample.steps file).AllSaved ∧
      StoreStep.trace CloudScript.cloud Sample.steps file =
        StoreStep.trace CloudScript.cloud Sample.steps memory := by
  intro file memory
  have hload : FileStore.load "store.json" Sample.fresh.files = .ok Sample.unmade := by
    decide +kernel
  have hput : ((StoreStep.put Sample.machine).run CloudScript.cloud file).2.AllSaved := by
    unfold Watched.AllSaved
    decide +kernel
  have hsaved := Sample.allSaved_steps file hput
  obtain ⟨htrace, -⟩ := file_answers_as_memory CloudScript.cloud Sample.fresh Sample.session hload
    Snapshot.storable_empty Sample.steps hsaved
  exact ⟨hload, hsaved, htrace⟩

end FleetReconciler
