import FleetReconciler.Proofs.FailedSaves

/-!
# What a store file holds

A store file holds the records as they were when a save last succeeded, whatever calls have failed
since. A call that answers without saving is therefore right about the file only for records that
have not changed since.

* `Session.OnFile`, `Session.FileHolds` — a session on a file, and what the file is opened with;
* `fileHolds_of_saved`, `fileHolds_of_unsaved` — what one call does to the file;
* `Worked` — sessions after any calls, with the snapshot that was last saved;
* `Worked.durable_answer` — **what the file holds after a call that succeeds**;
* `Worked.unchanged_is_not_saved` — an answer that finds a record unchanged and is not durable.
-/

namespace FleetReconciler

open Service

variable {σ : Type}

/-! ## Sessions on a file -/

namespace Session

/-- A session whose store is at a path, with records that can be read back. -/
structure OnFile (path : String) (s : Session σ) : Prop where
  backend : s.backend = .file ⟨path, s.records⟩
  storable : s.records.snapshot.Storable

/-- The directory of the file at a path is there, and the path is opened with a given snapshot. -/
structure FileHolds (path : String) (snapshot : Snapshot) (s : Session σ) : Prop where
  directory : s.files.HasDirectory (Path.parent path)
  opens : FileStore.load path s.files = .ok ⟨path, .ofSnapshot snapshot⟩

variable {path : String} {saved : Snapshot} {s t : Session σ} {refusal : Option Refusal}

/-- A store that was just opened is as its file says. -/
theorem onFile_of_load {store : FileStore} (hbackend : s.backend = .file store)
    (hload : FileStore.load path s.files = .ok store)
    (hstorable : store.memory.snapshot.Storable) :
    s.OnFile path ∧ (s.files.HasDirectory (Path.parent path) →
      s.FileHolds path s.records.snapshot) := by
  have hrecords : s.records = store.memory := by rw [records, hbackend]; rfl
  obtain ⟨snapshot, hstore, -⟩ := FileStore.eq_of_load hload
  subst hstore
  refine ⟨⟨hrecords ▸ hbackend, hrecords ▸ hstorable⟩, fun hdirectory => ⟨hdirectory, ?_⟩⟩
  rw [hload, hrecords, MemoryStore.snapshot_ofSnapshot]

/-- The value of a record in a snapshot that is opened. -/
theorem value_ofSnapshot (snapshot : Snapshot) (kind : Kind) (id : String) :
    ((MemoryStore.ofSnapshot snapshot).find? kind id).map Stored.value =
      Table.get? id (snapshot.table kind) := by
  rw [← MemoryStore.get?_rows, ← MemoryStore.snapshot_table, MemoryStore.snapshot_ofSnapshot]

namespace OnFile

/-- A save on a file, spelled out. -/
theorem saveRefusing_eq (h : s.OnFile path) (refusal : Option Refusal) :
    s.saveRefusing refusal =
      ((FileStore.replaceFile path s.records.snapshot refusal s.files).1,
        { s with files := (FileStore.replaceFile path s.records.snapshot refusal s.files).2 }) := by
  unfold saveRefusing
  rw [h.backend]
  rfl

theorem saveRefusing (h : s.OnFile path) (refusal : Option Refusal) :
    (s.saveRefusing refusal).2.OnFile path := by
  rw [h.saveRefusing_eq]
  exact ⟨h.backend, h.storable⟩

/-- A save that succeeds puts all records into the file. -/
theorem of_saved (h : s.OnFile path) (hsave : s.saveRefusing refusal = (.ok (), t)) :
    t.FileHolds path t.records.snapshot := by
  rw [h.saveRefusing_eq] at hsave
  cases hreplaced : FileStore.replaceFile path s.records.snapshot refusal s.files with
  | mk r files =>
    rw [hreplaced] at hsave
    cases hsave
    obtain ⟨hfind, hdirectory⟩ := FileStore.find_of_ok hreplaced
    exact ⟨hdirectory, FileStore.load_of_find h.storable hfind⟩

/-- A save that fails changes nothing where the directory is there. -/
theorem of_refused (h : s.OnFile path) (hfile : s.FileHolds path saved) {f : Failure}
    (hsave : s.saveRefusing refusal = (.error f, t)) : t = s := by
  rw [h.saveRefusing_eq] at hsave
  cases hreplaced : FileStore.replaceFile path s.records.snapshot refusal s.files with
  | mk r files =>
    rw [hreplaced] at hsave
    cases hsave
    rw [FileStore.eq_of_error hfile.directory hreplaced]

end OnFile

/-! ### Records that are written to memory -/

variable {ρ κ : Type} [Entity ρ κ]

theorem OnFile.write [StorableEntity ρ] (h : s.OnFile path) (record : Option ρ) :
    (s.write record).OnFile path := by
  cases record with
  | none => exact h
  | some r =>
    have hrecords : (s.write (some r)).records = s.records.put (EntityKey.kind κ)
        (EntityKey.text (Entity.key r)) (Entity.stored r) := records_withRecords s _
    constructor
    · rw [hrecords, Session.write, withRecords, h.backend]
      rfl
    · rw [hrecords, MemoryStore.snapshot_put]
      exact h.storable.put _ _ (StorableEntity.storable_stored r)

theorem FileHolds.write (h : s.FileHolds path saved) (record : Option ρ) :
    (s.write record).FileHolds path saved := by
  constructor
  · rw [files_write]
    exact h.directory
  · rw [files_write]
    exact h.opens

end Session

/-! ## Calls on a file -/

namespace StoreCall

variable {path : String} {saved : Snapshot} {s t : Session σ} {c : Cloud σ}
  {refusal : Option Refusal} {ρ κ : Type} [Entity ρ κ] [DecidableEq ρ] {call : StoreCall ρ κ}

/-- Whether a call comes to a save. -/
def saves (records : MemoryStore) (call : StoreCall ρ κ) : Bool :=
  match call.decision records with
  | .save _ => true
  | _ => false

theorem run_of_saves (h : call.saves s.records = true) : ∃ record : Option ρ,
    call.run c refusal s = (s.write record).saveRefusing refusal := by
  rw [run_eq]
  unfold saves at h
  cases hdecision : call.decision s.records with
  | save record => exact ⟨record, rfl⟩
  | _ => simp [hdecision] at h

/-- A call that does not come to a save does nothing. -/
theorem eq_of_not_saves {r : Except Failure Unit} (hrun : call.run c refusal s = (r, t))
    (h : call.saves s.records = false) : s = t := by
  rw [run_eq] at hrun
  unfold saves at h
  cases hdecision : call.decision s.records with
  | save record => simp [hdecision] at h
  | _ =>
    rw [hdecision] at hrun
    cases hrun
    rfl

theorem onFile_run [StorableEntity ρ] (h : s.OnFile path) {r : Except Failure Unit}
    (hrun : call.run c refusal s = (r, t)) : t.OnFile path := by
  cases hsaves : call.saves s.records with
  | true =>
    obtain ⟨record, hsave⟩ := run_of_saves hsaves
    have hafter := (h.write record).saveRefusing refusal
    rwa [← hsave, hrun] at hafter
  | false =>
    rw [← eq_of_not_saves hrun hsaves]
    exact h

/-- After a call that has saved, the file holds all records. -/
theorem fileHolds_of_saved [StorableEntity ρ] (h : s.OnFile path)
    (hrun : call.run c refusal s = (.ok (), t)) (hsaves : call.saves s.records = true) :
    t.FileHolds path t.records.snapshot := by
  obtain ⟨record, hsave⟩ := run_of_saves hsaves
  exact (h.write record).of_saved (hsave.symm.trans hrun)

/-- After a call that has not saved, the file holds what it held. -/
theorem fileHolds_of_unsaved [StorableEntity ρ] (h : s.OnFile path)
    (hfile : s.FileHolds path saved) {r : Except Failure Unit}
    (hrun : call.run c refusal s = (r, t)) (hnot : r = .ok () → call.saves s.records = false) :
    t.FileHolds path saved := by
  cases hsaves : call.saves s.records with
  | true =>
    obtain ⟨record, hsave⟩ := run_of_saves hsaves
    cases r with
    | ok u => exact absurd (hnot rfl) (by simp [hsaves])
    | error f =>
      have hfile' := hfile.write record
      rw [(h.write record).of_refused hfile' (hsave.symm.trans hrun)]
      exact hfile'
  | false =>
    rw [← eq_of_not_saves hrun hsaves]
    exact hfile

end StoreCall

/-! ## Histories of calls -/

/-- What becomes of a session by any calls, with the records as they were when a save last
succeeded, or at the start. -/
inductive Worked (c : Cloud σ) (start : Session σ) : Snapshot → Session σ → Prop
  | start : Worked c start start.records.snapshot start
  /-- A call that has saved. -/
  | saved {last : Snapshot} {s t : Session σ} {refusal : Option Refusal} {ρ κ : Type} [Entity ρ κ]
      [StorableEntity ρ] [DecidableEq ρ] (call : StoreCall ρ κ) (before : Worked c start last s)
      (hrun : call.run c refusal s = (.ok (), t)) (hsaves : call.saves s.records = true) :
      Worked c start t.records.snapshot t
  /-- A call that has failed, or had nothing to write. -/
  | unsaved {last : Snapshot} {s t : Session σ} {refusal : Option Refusal} {ρ κ : Type}
      [Entity ρ κ] [StorableEntity ρ] [DecidableEq ρ] {r : Except Failure Unit}
      (call : StoreCall ρ κ) (before : Worked c start last s)
      (hrun : call.run c refusal s = (r, t)) (hnot : r = .ok () → call.saves s.records = false) :
      Worked c start last t

namespace Worked

variable {c : Cloud σ} {path : String} {start s t : Session σ} {last : Snapshot}

theorem onFile (h : Worked c start last s) (hstart : start.OnFile path) : s.OnFile path := by
  induction h with
  | start => exact hstart
  | saved call _ hrun _ ih => exact StoreCall.onFile_run ih hrun
  | unsaved call _ hrun _ ih => exact StoreCall.onFile_run ih hrun

/-- **The file holds the records as they were when a save last succeeded.** -/
theorem fileHolds (h : Worked c start last s) (hstart : start.OnFile path)
    (hfile : start.FileHolds path start.records.snapshot) : s.FileHolds path last := by
  induction h with
  | start => exact hfile
  | saved call before hrun hsaves _ =>
    exact StoreCall.fileHolds_of_saved (before.onFile hstart) hrun hsaves
  | unsaved call before hrun hnot ih =>
    exact StoreCall.fileHolds_of_unsaved (before.onFile hstart) ih hrun hnot

/-- **What the file holds after a call that succeeds.** If the call has saved, opening the file gives
every record as it is. If it had nothing to write, opening the file gives a record as it is just if
the record is as it was when a save last succeeded, or at the start. -/
theorem durable_answer (h : Worked c start last s) (hstart : start.OnFile path) {ρ κ : Type}
    [Entity ρ κ] [StorableEntity ρ] [DecidableEq ρ] (call : StoreCall ρ κ)
    (refusal : Option Refusal) (hrun : call.run c refusal s = (.ok (), t)) :
    (call.saves s.records = true → ∃ opened, FileStore.load path t.files = .ok opened ∧
      ∀ kind id, (opened.memory.find? kind id).map Stored.value =
        (t.records.find? kind id).map Stored.value) ∧
    (call.saves s.records = false → start.FileHolds path start.records.snapshot →
      ∃ opened, FileStore.load path t.files = .ok opened ∧
        ∀ kind id, (opened.memory.find? kind id).map Stored.value =
            (t.records.find? kind id).map Stored.value ↔
          Table.get? id (last.table kind) = (s.records.find? kind id).map Stored.value) := by
  constructor
  · intro hsaves
    have hholds := StoreCall.fileHolds_of_saved (h.onFile hstart) hrun hsaves
    refine ⟨_, hholds.opens, fun kind id => ?_⟩
    rw [Session.value_ofSnapshot, MemoryStore.snapshot_table, MemoryStore.get?_rows]
  · intro hsaves hfile
    obtain rfl : s = t := StoreCall.eq_of_not_saves hrun hsaves
    refine ⟨_, (h.fileHolds hstart hfile).opens, fun kind id => ?_⟩
    rw [Session.value_ofSnapshot]

end Worked

/-! ## An answer that is not durable -/

namespace Sample

/-- A transaction that leaves its record as it is. -/
def idle : StoreCall Instance InstanceKey := .transact machine.key fun current => (current, ())

/-- The transaction finds the record that an attempt to put it has left, and does nothing. -/
theorem run_idle {s : Session CloudScript} (h : s.records = blockedAfter.records) :
    idle.run CloudScript.cloud none s = (.ok (), s) ∧ idle.saves s.records = false := by
  have hdecision : idle.decision blockedAfter.records = .idle := by decide +kernel
  constructor
  · rw [StoreCall.run_eq, h, hdecision]
  · rw [StoreCall.saves, h, hdecision]

/-- A session on an empty store whose file can be made. -/
def fresh : Session CloudScript := { backend := .file ⟨"store.json", {}⟩, cloud := {}, clock := midnight }

/-- The temporary file of a save cannot be written. -/
def unwritable : Refusal := ⟨.writeTemporary, .denied⟩

/-- The session after an attempt to put a record while the temporary file cannot be written. -/
def freshAfter : Session CloudScript :=
  ((StoreCall.put machine).run CloudScript.cloud (some unwritable) fresh).2

theorem run_put_fresh :
    (StoreCall.put machine).run CloudScript.cloud (some unwritable) fresh =
      (.error ((Failure.of (.file .denied)).within (.writingTemporary ".")), freshAfter) := by
  have hfailed : ((StoreCall.put machine).run CloudScript.cloud (some unwritable) fresh).1 =
      .error ((Failure.of (.file .denied)).within (.writingTemporary ".")) := by decide +kernel
  exact Prod.ext hfailed rfl

theorem onFile_fresh :
    fresh.OnFile "store.json" ∧ fresh.FileHolds "store.json" fresh.records.snapshot := by
  have hload : FileStore.load "store.json" fresh.files = .ok ⟨"store.json", {}⟩ := by
    decide +kernel
  have hdirectory : fresh.files.HasDirectory (Path.parent "store.json") := by
    have hparent : Path.parent "store.json" = "." := by decide +kernel
    have hnames : Path.names "." = [] := by decide +kernel
    rw [hparent]
    refine ⟨by decide +kernel, ?_⟩
    rw [hnames]
    trivial
  obtain ⟨honFile, hholds⟩ := Session.onFile_of_load rfl hload Snapshot.storable_empty
  exact ⟨honFile, hholds hdirectory⟩

end Sample

namespace Worked

/-- After a put that has failed a transaction finds the record unchanged, and the file is opened
without it. -/
theorem durable_answer_after_refusal :
    ∃ opened, FileStore.load "store.json" Sample.freshAfter.files = .ok opened ∧
      (opened.memory.find? .machine (EntityKey.text Sample.machine.key)).map Stored.value ≠
        (Sample.freshAfter.records.find? .machine (EntityKey.text Sample.machine.key)).map
          Stored.value := by
  have hworked : Worked CloudScript.cloud Sample.fresh Sample.fresh.records.snapshot
      Sample.freshAfter := .unsaved (.put Sample.machine) .start Sample.run_put_fresh nofun
  have hrecords : Sample.freshAfter.records = Sample.blockedAfter.records := by decide +kernel
  obtain ⟨honFile, hholds⟩ := Sample.onFile_fresh
  obtain ⟨hrun, hsaves⟩ := Sample.run_idle hrecords
  obtain ⟨-, hidle⟩ := durable_answer hworked honFile Sample.idle none hrun
  obtain ⟨opened, hopened, hiff⟩ := hidle hsaves hholds
  refine ⟨opened, hopened, fun hsame => ?_⟩
  have hlast := (hiff _ _).1 hsame
  exact absurd hlast (by decide +kernel)

/-- An answer that is not durable: a put fails, a transaction on the record then succeeds because it
finds it unchanged, and the store that is opened at the path does not have it. -/
theorem unchanged_is_not_saved :
    FileStore.load "store.json/x.json" Sample.blocked.files = .ok ⟨"store.json/x.json", {}⟩ ∧
      (StoreCall.put Sample.machine).run CloudScript.cloud none Sample.blocked =
        (.error Sample.obstructed, Sample.blockedAfter) ∧
      Sample.idle.run CloudScript.cloud none Sample.blockedAfter = (.ok (), Sample.blockedAfter) ∧
      (Sample.blockedAfter.serve CloudScript.cloud (lookup Instance Sample.machine.key)).1 =
        .ok (some Sample.machine) ∧
      FileStore.load "store.json/x.json" Sample.blockedAfter.files =
        .ok ⟨"store.json/x.json", {}⟩ := by
  refine ⟨Sample.load_blocked, Sample.run_put_blocked, (Sample.run_idle rfl).1, ?_, ?_⟩
  · decide +kernel
  · decide +kernel

end Worked

end FleetReconciler
