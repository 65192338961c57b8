import FleetReconciler.Proofs.FileRewrite
import FleetReconciler.Proofs.Solo
import FleetReconciler.Proofs.SoundStore

/-!
# Calls whose save fails

A store in a file writes to memory first and saves then. The operating system may refuse any
operation of the save, and the call fails; the file is as it was, but the record stays in memory.

* `Session.performRefusing` — the requests of a service while an operation of a save is refused;
* `StoreCall`, `StoreCall.run_eq` — the calls that may write, and what each does at once;
* `Session.SameAnswers` — every look-up and every scan of a type of records has the same result;
* `failed_call_effect` — **what a call that fails has done**;
* `failed_put_is_found` — a record that is found although its put has failed.
-/

namespace FleetReconciler

open Service

variable {σ : Type}

namespace Session

/-! ## Saves that are refused -/

/-- Saves the records where they have a file, unless an operation of the save is refused. -/
def saveRefusing (refusal : Option Refusal) (s : Session σ) : Except Failure Unit × Session σ :=
  match s.backend with
  | .memory _ => (.ok (), s)
  | .file store =>
    let (r, files) := store.save refusal s.files
    (r, { s with files })

theorem saveRefusing_none (s : Session σ) : s.saveRefusing none = s.save := by
  unfold saveRefusing save
  cases s.backend <;> rfl

/-- Performs a request; where it is a save, an operation of it may be refused. -/
def performRefusing (c : Cloud σ) (refusal : Option Refusal) :
    (r : Request) → Session σ → r.Reply × Session σ
  | .save, s => s.saveRefusing refusal
  | r, s => perform c r s

theorem performRefusing_none (c : Cloud σ) : performRefusing c none = perform c := by
  funext r s
  cases r with
  | save => exact saveRefusing_none s
  | _ => rfl

theorem records_saveRefusing (refusal : Option Refusal) (s : Session σ) :
    (s.saveRefusing refusal).2.records = s.records := by
  unfold saveRefusing records
  cases hbackend : s.backend <;> simp [hbackend]

/-- A save that fails leaves every file as it was. -/
theorem sameFiles_of_refused {refusal : Option Refusal} {s t : Session σ} {f : Failure}
    (h : s.saveRefusing refusal = (.error f, t)) : s.files.SameFiles t.files := by
  unfold saveRefusing at h
  cases hbackend : s.backend with
  | memory records =>
    rw [hbackend] at h
    cases h
  | file store =>
    simp only [hbackend] at h
    cases hsave : store.save refusal s.files with
    | mk r files =>
      rw [hsave] at h
      cases h
      exact FileStore.sameFiles_of_error hsave

variable {ρ κ : Type} [Entity ρ κ]

/-- The session after a record was written under its key; none leaves it as it is. -/
def write (record : Option ρ) (s : Session σ) : Session σ :=
  match record with
  | none => s
  | some r => s.withRecords (s.records.put (EntityKey.kind κ) (EntityKey.text (Entity.key r))
      (Entity.stored r))

theorem files_write (record : Option ρ) (s : Session σ) : (s.write record).files = s.files := by
  cases record <;> rfl

/-! ## Answers -/

theorem serve_lookup (c : Cloud σ) (key : κ) (s : Session σ) :
    s.serve c (lookup ρ key) = (s.records.read ρ key, s) := by
  unfold serve
  rw [lookup_eq, request_bind, run_ask]
  show (lift (.ok _) >>= _ : Service _).run _ _ = _
  rw [lift_ok_bind, run_lift]
  rfl

theorem serve_records (c : Cloud σ) (s : Session σ) :
    s.serve c (Service.records ρ) =
      ((s.records.rows (EntityKey.kind κ)).mapM fun (id, value) =>
        decodeRecord (EntityKey.kind κ) id value, s) := by
  show (lift ((s.records.rows (EntityKey.kind κ)).mapM fun (id, value) =>
    decodeRecord (EntityKey.kind κ) id value) : Service (List ρ)).run _ _ = _
  rw [run_lift]

/-- Every look-up and every scan of a type of records has the same result. -/
structure SameAnswers (ρ : Type) {κ : Type} [Entity ρ κ] (c : Cloud σ) (s t : Session σ) : Prop where
  lookup : ∀ key : κ, (t.serve c (Service.lookup ρ key)).1 = (s.serve c (Service.lookup ρ key)).1
  scan : (t.serve c (Service.records ρ)).1 = (s.serve c (Service.records ρ)).1

end Session

/-! ## Calls -/

/-- A call of the store by which a record of a type may be written. -/
inductive StoreCall (ρ κ : Type) : Type 1 where
  /-- Write a record whatever is there. -/
  | put (r : ρ)
  | transact {β : Type} (key : κ) (mutate : Option ρ → Option ρ × β)
  /-- Save what is there. -/
  | flush

namespace StoreCall

variable {ρ κ : Type} [Entity ρ κ] [DecidableEq ρ]

/-- Makes a call while an operation of a save may be refused. -/
def run (c : Cloud σ) (refusal : Option Refusal) :
    StoreCall ρ κ → Session σ → Except Failure Unit × Session σ
  | .put r, s => (s.write (some r)).saveRefusing refusal
  | .transact key mutate, s =>
    let (r, s) := (Service.transact key mutate).run (Session.performRefusing c refusal) s
    (r.map fun _ => (), s)
  | .flush, s => s.saveRefusing refusal

/-- Where nothing is refused, a put is that of the session. -/
theorem run_put (c : Cloud σ) (r : ρ) (s : Session σ) : (put r).run c none s = s.put r :=
  Session.saveRefusing_none (s.write (some r))

/-- Where nothing is refused, a transaction is served as by the session. -/
theorem run_transact {β : Type} (c : Cloud σ) (key : κ) (mutate : Option ρ → Option ρ × β)
    (s : Session σ) : (transact key mutate).run c none s =
      ((s.serve c (Service.transact key mutate)).1.map fun _ => (),
        (s.serve c (Service.transact key mutate)).2) := by
  unfold run
  rw [Session.performRefusing_none]
  rfl

/-- What a call has decided before anything is written. -/
inductive Decision (ρ : Type) where
  | fail (f : Failure)
  /-- Nothing changes, so there is nothing to write. -/
  | idle
  /-- Write a record, if one is given, and save. -/
  | save (record : Option ρ)
  deriving DecidableEq

/-- What a call decides on the records. -/
def decision (records : MemoryStore) : StoreCall ρ κ → Decision ρ
  | .put r => .save (some r)
  | .transact key mutate =>
    match attempt key mutate (records.find? (EntityKey.kind κ) (EntityKey.text key)) with
    | .stop (.error f) => .fail f
    | .stop (.ok _) => .idle
    | .write _ r _ => .save (some r)
  | .flush => .save none

/-- The record that a call wants to write. -/
def record? (records : MemoryStore) (call : StoreCall ρ κ) : Option ρ :=
  match call.decision records with
  | .save record => record
  | _ => none

/-- A transaction alone while an operation of a save may be refused. -/
theorem run_transactRefusing {β : Type} (c : Cloud σ) (refusal : Option Refusal) (key : κ)
    (mutate : Option ρ → Option ρ × β) (s : Session σ) :
    (Service.transact key mutate).run (Session.performRefusing c refusal) s =
      match attempt key mutate (s.records.find? (EntityKey.kind κ) (EntityKey.text key)) with
      | .stop r => (r, s)
      | .write _ record value =>
        let (saved, t) := (s.write (some record)).saveRefusing refusal
        (saved.map fun _ => ⟨value, true⟩, t) := by
  have hrun := run_transact_saving (Session.performRefusing c refusal) key mutate s s.records
    (fun record => s.write (some record)) rfl fun record hkey => by
      have htext : EntityKey.text (Entity.key record) = EntityKey.text key := by
        simp only [EntityKey.text, EntityKey.texts, hkey]
      simp [Session.performRefusing, Session.perform, MemoryStore.commit_eq, Session.write, htext]
  rw [hrun]
  cases attempt key mutate (s.records.find? (EntityKey.kind κ) (EntityKey.text key)) with
  | stop r => rfl
  | write version record value => rfl

/-- **A call fails, or has nothing to do, or writes and then saves.** -/
theorem run_eq (c : Cloud σ) (refusal : Option Refusal) (call : StoreCall ρ κ) (s : Session σ) :
    call.run c refusal s =
      match call.decision s.records with
      | .fail f => (.error f, s)
      | .idle => (.ok (), s)
      | .save record => (s.write record).saveRefusing refusal := by
  cases call with
  | put r => rfl
  | flush => rfl
  | transact key mutate =>
    simp only [run, decision, run_transactRefusing]
    cases attempt key mutate (s.records.find? (EntityKey.kind κ) (EntityKey.text key)) with
    | stop result => cases result <;> rfl
    | write version record value =>
      simp only
      cases (s.write (some record)).saveRefusing refusal with
      | mk saved t => cases saved <;> rfl

end StoreCall

/-! ## What stays the same -/

/-- Setting a value that reads as the one before changes no reading of a table in order. -/
theorem Table.mapM_insert {α β ε : Type} {f : String × α → Except ε β} {t : Table α}
    (hascending : t.Ascending) {name : String} {old new : α} (hold : get? name t = some old)
    (hread : f (name, new) = f (name, old)) : (insert name new t).mapM f = t.mapM f := by
  induction t with
  | nil => cases hold
  | cons p t ih =>
    obtain ⟨n, a⟩ := p
    obtain ⟨hhead, htail⟩ := List.pairwise_cons.1 hascending
    simp only [get?, insert] at hold ⊢
    split at hold
    · rename_i hname
      cases hold
      subst hname
      simp only [if_true, List.mapM_cons, hread]
    · rename_i hname
      -- in a table in order, a name is not found behind a greater one
      have hafter : ¬ name < n := fun hlt =>
        String.lt_irrefl name (String.lt_trans hlt (hhead _ (mem_of_get?_eq_some hold)))
      rw [if_neg hname, if_neg hafter, List.mapM_cons, List.mapM_cons, ih htail hold]

namespace Session

variable {ρ κ : Type} [Entity ρ κ] {c : Cloud σ} {s t : Session σ}

/-- The answers for a type of records are determined by what is read and by the rows. -/
theorem sameAnswers_iff : SameAnswers ρ c s t ↔
    (∀ key : κ, t.records.read ρ key = s.records.read ρ key) ∧
      (t.records.rows (EntityKey.kind κ)).mapM
          (fun (id, value) => decodeRecord (ρ := ρ) (EntityKey.kind κ) id value) =
        (s.records.rows (EntityKey.kind κ)).mapM
          (fun (id, value) => decodeRecord (EntityKey.kind κ) id value) := by
  constructor
  · intro h
    exact ⟨fun key => by simpa only [serve_lookup] using h.lookup key,
      by simpa only [serve_records] using h.scan⟩
  · rintro ⟨hread, hscan⟩
    exact ⟨fun key => by simpa only [serve_lookup] using hread key,
      by simpa only [serve_records] using hscan⟩

theorem SameAnswers.of_records_eq (h : t.records = s.records) : SameAnswers ρ c s t := by
  rw [sameAnswers_iff, h]
  exact ⟨fun _ => rfl, rfl⟩

/-- A write of one kind changes no answer for another. -/
theorem SameAnswers.of_kind_ne {kind : Kind} (hkind : EntityKey.kind κ ≠ kind) {id : String}
    {value : Json} (h : t.records = s.records.put kind id value) : SameAnswers ρ c s t := by
  rw [sameAnswers_iff, h]
  refine ⟨fun key => MemoryStore.read_put_of_ne _ (fun hsame => hkind hsame.1) value, ?_⟩
  rw [MemoryStore.rows_put_of_name_ne _ fun hname => hkind (Kind.name_injective hname)]

/-- A write of a record changes no answer just where the record was there already. -/
theorem sameAnswers_put_iff [LawfulEntity ρ] (hordered : s.records.snapshot.Ordered) {r : ρ}
    (h : t.records = s.records.put (EntityKey.kind κ) (EntityKey.text (Entity.key r))
      (Entity.stored r)) :
    SameAnswers ρ c s t ↔ s.records.read ρ (Entity.key r) = .ok (some r) := by
  rw [sameAnswers_iff, h]
  constructor
  · rintro ⟨hread, -⟩
    rw [← hread, MemoryStore.read_put_self]
  · intro hthere
    refine ⟨fun key => ?_, ?_⟩
    · by_cases hkey : key = Entity.key r
      · rw [hkey, MemoryStore.read_put_self, hthere]
      · exact MemoryStore.read_put_of_ne _
          (fun hsame => hkey (EntityKey.text_injective hsame.2)) _
    · -- the row of the record may have another value, but it reads as the same record
      obtain ⟨x, hx, hdecode⟩ := MemoryStore.read_eq_some.1 hthere
      have hrow : Table.get? (EntityKey.text (Entity.key r)) (s.records.rows (EntityKey.kind κ)) =
          some x.value := by rw [MemoryStore.get?_rows, hx]; rfl
      rw [MemoryStore.rows_put_self]
      refine Table.mapM_insert ?_ hrow ?_
      · rw [← MemoryStore.snapshot_table]
        exact hordered.table _
      · simp only [decodeRecord, hdecode, LawfulEntity.decode_stored]

end Session

/-! ## What a call that fails has done -/

namespace StoreCall

variable {ρ κ : Type} [Entity ρ κ] [DecidableEq ρ]

/-- Whatever becomes of the save, a call leaves the record that it wanted to write. -/
theorem records_run (c : Cloud σ) (refusal : Option Refusal) (call : StoreCall ρ κ) (s : Session σ) :
    (call.run c refusal s).2.records = (s.write (call.record? s.records)).records := by
  rw [run_eq]
  unfold record?
  cases call.decision s.records with
  | fail f => rfl
  | idle => rfl
  | save record => exact Session.records_saveRefusing refusal (s.write record)

/-- The tables of a store stay in order. -/
theorem ordered_run (c : Cloud σ) (refusal : Option Refusal) (call : StoreCall ρ κ) {s : Session σ}
    (h : s.records.snapshot.Ordered) : (call.run c refusal s).2.records.snapshot.Ordered := by
  rw [records_run]
  cases call.record? s.records with
  | none => exact h
  | some r =>
    rw [Session.write, Session.records_withRecords, MemoryStore.snapshot_put]
    exact h.put _ _ _

/-- A call that fails leaves every file as it was. -/
theorem sameFiles_of_error {c : Cloud σ} {refusal : Option Refusal} {call : StoreCall ρ κ}
    {s t : Session σ} {f : Failure} (h : call.run c refusal s = (.error f, t)) :
    s.files.SameFiles t.files := by
  rw [run_eq] at h
  cases hdecision : call.decision s.records with
  | fail g =>
    rw [hdecision] at h
    cases h
    exact .refl _
  | idle =>
    rw [hdecision] at h
    cases h
  | save record =>
    simp only [hdecision] at h
    rw [← Session.files_write record s]
    exact Session.sameFiles_of_refused h

/-- **What a call that fails has done.** Every file is as it was, and every path that led to one
still does; no answer for another type of records has changed; the record that the call wanted to
write is there, so the answers for its type are the same just if it was there before. -/
theorem failed_call_effect [LawfulEntity ρ] (c : Cloud σ) (refusal : Option Refusal)
    (call : StoreCall ρ κ) {s t : Session σ} {f : Failure} (hordered : s.records.snapshot.Ordered)
    (h : call.run c refusal s = (.error f, t)) :
    s.files.SameFiles t.files ∧
      (∀ path text, s.files.readText path = .ok text → t.files.readText path = .ok text) ∧
      (∀ {ρ' κ' : Type} [Entity ρ' κ'], EntityKey.kind κ' ≠ EntityKey.kind κ →
        Session.SameAnswers ρ' c s t) ∧
      (∀ r, call.record? s.records = some r →
        (t.serve c (Service.lookup ρ (Entity.key r))).1 = .ok (some r)) ∧
      (Session.SameAnswers ρ c s t ↔ ∀ r, call.record? s.records = some r →
        (s.serve c (Service.lookup ρ (Entity.key r))).1 = .ok (some r)) := by
  have hfiles := sameFiles_of_error h
  have hrecords := records_run c refusal call s
  rw [h] at hrecords
  refine ⟨hfiles, fun path => hfiles.readText_upholds path, ?_⟩
  cases hrecord : call.record? s.records with
  | none =>
    rw [hrecord] at hrecords
    exact ⟨fun _ => .of_records_eq hrecords, nofun, fun _ => nofun, fun _ => .of_records_eq hrecords⟩
  | some r =>
    rw [hrecord] at hrecords
    have hput : t.records = s.records.put (EntityKey.kind κ) (EntityKey.text (Entity.key r))
        (Entity.stored r) := hrecords.trans (Session.records_withRecords s _)
    have hread : t.records.read ρ (Entity.key r) = .ok (some r) := by
      rw [hput, MemoryStore.read_put_self]
    refine ⟨fun hkind => .of_kind_ne hkind hput, ?_, ?_⟩
    · rintro r' ⟨⟩
      rw [Session.serve_lookup]
      exact hread
    · rw [Session.sameAnswers_put_iff hordered hput]
      constructor
      · rintro hthere r' ⟨⟩
        rw [Session.serve_lookup]
        exact hthere
      · intro hall
        have hthere := hall r rfl
        rwa [Session.serve_lookup] at hthere

end StoreCall

/-! ## A store to which nothing can be saved -/

namespace Sample

/-- A session on an empty store whose file would lie in a directory, where a file has the name of that
directory. -/
def blocked : Session CloudScript where
  backend := .file ⟨"store.json/x.json", {}⟩
  files := ⟨[("store.json", .file "\x7b\x7d" FileStore.mode)]⟩
  cloud := {}
  clock := midnight

theorem load_blocked :
    FileStore.load "store.json/x.json" blocked.files = .ok ⟨"store.json/x.json", {}⟩ := by
  decide +kernel

/-- The session after an attempt to put a record. -/
def blockedAfter : Session CloudScript :=
  ((StoreCall.put machine).run CloudScript.cloud none blocked).2

/-- Why the attempt fails. -/
def obstructed : Failure := (Failure.of (.file .exists)).within (.creatingDirectory "store.json")

theorem run_put_blocked :
    (StoreCall.put machine).run CloudScript.cloud none blocked = (.error obstructed, blockedAfter) := by
  have hfailed : ((StoreCall.put machine).run CloudScript.cloud none blocked).1 =
      .error obstructed := by decide +kernel
  exact Prod.ext hfailed rfl

end Sample

namespace StoreCall

/-- After the attempt the files are the same, but not all answers are. -/
theorem failed_put_effect :
    Sample.blocked.files.SameFiles Sample.blockedAfter.files ∧
      ¬ Session.SameAnswers Instance CloudScript.cloud Sample.blocked Sample.blockedAfter := by
  have hordered : Sample.blocked.records.snapshot.Ordered :=
    FileStore.ordered_of_load Sample.load_blocked
  obtain ⟨hfiles, -, -, -, hsame⟩ := failed_call_effect CloudScript.cloud none
    (.put Sample.machine) hordered Sample.run_put_blocked
  refine ⟨hfiles, fun h => ?_⟩
  have hthere := hsame.1 h Sample.machine rfl
  rw [Session.serve_lookup] at hthere
  cases hthere

/-- A put that fails is not without effect: on a store that was opened empty, the record is found
afterwards. -/
theorem failed_put_is_found :
    FileStore.load "store.json/x.json" Sample.blocked.files = .ok ⟨"store.json/x.json", {}⟩ ∧
      (StoreCall.put Sample.machine).run CloudScript.cloud none Sample.blocked =
        (.error Sample.obstructed, Sample.blockedAfter) ∧
      (Sample.blocked.serve CloudScript.cloud (lookup Instance Sample.machine.key)).1 = .ok none ∧
      (Sample.blockedAfter.serve CloudScript.cloud (lookup Instance Sample.machine.key)).1 =
        .ok (some Sample.machine) :=
  ⟨Sample.load_blocked, Sample.run_put_blocked, by decide +kernel, by decide +kernel⟩

end StoreCall

end FleetReconciler
