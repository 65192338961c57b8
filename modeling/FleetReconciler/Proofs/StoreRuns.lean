import FleetReconciler.Proofs.DrainedScan
import FleetReconciler.Proofs.Upkeep

/-!
# Runs of calls on a store

Puts and transactions on records of all types are called one after another on a store in memory. The
mutations are arbitrary: they may leave a record alone, change it, end in an error, remove the record
or make one with another key.

* `SoundType` — the types of records that a sound store holds;
* `RecordCall`, `RecordCall.runAll` — a call on a record of such a type, and calls in a row;
* `StoreCall.Effect` — what a call does to the records: nothing, or one write under the key called for;
* `Session.Tidy` — what every call keeps;
* `Session.Answers` — look-ups find the records under their keys, a scan finds each of them once;
* `calls_keep_store_sound` — **what holds before, at and after each call of a run**.
-/

namespace FleetReconciler

open Service

variable {σ : Type}

/-- A type of records that a sound store holds: each decodes and lies under its own key, and one more
may be written. -/
class SoundType (ρ : Type) {κ : Type} [Entity ρ κ] : Prop extends LawfulEntity ρ where
  holds : ∀ {s : MemoryStore}, s.Sound → s.Holds ρ
  put : ∀ {s : MemoryStore}, s.Sound → ∀ r : ρ,
    (s.put (EntityKey.kind κ) (EntityKey.text (Entity.key r)) (Entity.stored r)).Sound

instance : SoundType Template := ⟨fun h => h.templates, fun h r => h.apply (.template r)⟩

instance : SoundType Revision := ⟨fun h => h.revisions, fun h r => h.apply (.revision r)⟩

instance : SoundType Manager := ⟨fun h => h.managers, fun h r => h.apply (.manager r)⟩

instance : SoundType Instance := ⟨fun h => h.instances, fun h r => h.apply (.machine r)⟩

/-! ## Calls -/

namespace StoreCall

variable {ρ κ : Type} [Entity ρ κ]

/-- The key of the record that a call may write. -/
def key? : StoreCall ρ κ → Option κ
  | put r => some (Entity.key r)
  | transact key _ => some key
  | flush => none

variable [DecidableEq ρ]

/-- What a call has done to the records: nothing, or it has written the record that it wanted to
write. The record has the key that was called for, its version is the next one, and everything else
is as it was. -/
inductive Effect (call : StoreCall ρ κ) (s t : MemoryStore) : Prop where
  | nothing (unwanted : call.record? s = none) (same : t = s)
  | write (r : ρ) (wanted : call.record? s = some r) (addressed : call.key? = some (Entity.key r))
    (written : ∀ kind id, t.find? kind id =
      if kind = EntityKey.kind κ ∧ id = EntityKey.text (Entity.key r) then
        some ⟨s.version kind id + 1, Entity.stored r⟩
      else s.find? kind id)

/-- A call wants to write only under the key that it was made for. -/
theorem key?_of_record? [LawfulKey κ] {call : StoreCall ρ κ} {records : MemoryStore} {r : ρ}
    (h : call.record? records = some r) : call.key? = some (Entity.key r) := by
  cases call with
  | put r' =>
    cases h
    rfl
  | flush => cases h
  | transact key mutate =>
    simp only [record?, decision] at h
    cases hattempt : attempt key mutate
        (records.find? (EntityKey.kind κ) (EntityKey.text key)) with
    | stop result => cases result <;> simp [hattempt] at h
    | write version r' value =>
      obtain ⟨current, -, -, -, hkey⟩ := attempt_eq_write.1 hattempt
      simp only [hattempt, Option.some.injEq] at h
      subst h
      exact congrArg some (EntityKey.eq_of_components hkey).symm

/-- **A call writes nothing, or one record under the key called for.** -/
theorem effect_run [LawfulKey κ] (c : Cloud σ) (call : StoreCall ρ κ) (s : Session σ) :
    call.Effect s.records (call.run c none s).2.records := by
  rw [records_run]
  cases hrecord : call.record? s.records with
  | none => exact .nothing hrecord rfl
  | some r =>
    refine .write r hrecord (key?_of_record? hrecord) fun kind id => ?_
    rw [Session.write, Session.records_withRecords, MemoryStore.find?_put]
    split
    · rename_i hsame
      rw [hsame.1, hsame.2]
    · rfl

/-- A call on a store in memory that fails has written nothing. -/
theorem records_of_error {c : Cloud σ} {call : StoreCall ρ κ} {s t : Session σ} {f : Failure}
    (hm : s.InMemory) (h : call.run c none s = (.error f, t)) : t = s := by
  rw [run_eq] at h
  cases hdecision : call.decision s.records with
  | fail g =>
    rw [hdecision] at h
    exact (congrArg Prod.snd h).symm
  | idle =>
    rw [hdecision] at h
    cases h
  | save record =>
    have hm' : (s.write record).InMemory := by
      cases record with
      | none => exact hm
      | some r => exact hm.withRecords _
    simp only [hdecision, Session.saveRefusing_none, hm'.save] at h
    cases h

theorem inMemory_run (c : Cloud σ) (call : StoreCall ρ κ) {s : Session σ} (hm : s.InMemory) :
    (call.run c none s).2.InMemory := by
  rw [run_eq]
  cases call.decision s.records with
  | fail f => exact hm
  | idle => exact hm
  | save record =>
    have hm' : (s.write record).InMemory := by
      cases record with
      | none => exact hm
      | some r => exact hm.withRecords _
    simp only [Session.saveRefusing_none, hm'.save]
    exact hm'

theorem Effect.grows {call : StoreCall ρ κ} {s t : MemoryStore} (h : call.Effect s t) :
    s.Grows t := by
  cases h with
  | nothing unwanted same => exact same ▸ .refl s
  | write r wanted addressed written =>
    intro kind id
    unfold MemoryStore.version
    rw [written]
    split
    · simp [MemoryStore.version]
    · simp

end StoreCall

/-- A call on a record of any type that a sound store holds. -/
structure RecordCall : Type 1 where
  {ρ κ : Type}
  [entity : Entity ρ κ]
  [soundType : SoundType ρ]
  [decEq : DecidableEq ρ]
  call : StoreCall ρ κ

attribute [instance] RecordCall.entity RecordCall.soundType RecordCall.decEq

namespace RecordCall

/-- Makes a call. -/
def run (c : Cloud σ) (call : RecordCall) (s : Session σ) : Except Failure Unit × Session σ :=
  call.call.run c none s

/-- Makes calls one after another, whatever becomes of each. -/
def runAll (c : Cloud σ) (calls : List RecordCall) (s : Session σ) : Session σ :=
  calls.foldl (fun s call => (call.run c s).2) s

end RecordCall

/-! ## What every call keeps -/

namespace Session

/-- The records are in memory, in the order of their ids, and sound. -/
structure Tidy (s : Session σ) : Prop where
  inMemory : s.InMemory
  ordered : s.records.snapshot.Ordered
  sound : s.records.Sound

theorem Tidy.run {s : Session σ} (h : s.Tidy) (c : Cloud σ) (call : RecordCall) :
    (call.run c s).2.Tidy where
  inMemory := call.call.inMemory_run c h.inMemory
  ordered := call.call.ordered_run c none h.ordered
  sound := by
    unfold RecordCall.run
    rw [StoreCall.records_run]
    cases call.call.record? s.records with
    | none => exact h.sound
    | some r =>
      rw [write, records_withRecords]
      exact SoundType.put h.sound r

theorem Tidy.runAll {s : Session σ} (h : s.Tidy) (c : Cloud σ) (calls : List RecordCall) :
    (RecordCall.runAll c calls s).Tidy := by
  induction calls generalizing s with
  | nil => exact h
  | cons call calls ih => exact ih (h.run c call)

theorem grows_runAll (c : Cloud σ) (calls : List RecordCall) (s : Session σ) :
    s.records.Grows (RecordCall.runAll c calls s).records := by
  induction calls generalizing s with
  | nil => exact .refl _
  | cons call calls ih => exact (call.call.effect_run c s).grows.trans (ih _)

/-! ## Answers -/

/-- A look-up succeeds, finds a record just if there is one, and finds none but that with the key. A
scan succeeds and lists the records that are stored, each once and in the order of ids, as they are
looked up. -/
structure Answers (c : Cloud σ) (s : Session σ) (ρ : Type) {κ : Type} [Entity ρ κ] : Prop where
  lookup : ∀ key : κ, ∃ found, (s.serve c (Service.lookup ρ key)).1 = .ok found ∧
    found.isSome = (s.records.find? (EntityKey.kind κ) (EntityKey.text key)).isSome ∧
    ∀ r, found = some r → Entity.key r = key
  scan : ∃ rs, (s.serve c (Service.records ρ)).1 = .ok rs ∧
    (rs.map fun r => EntityKey.text (Entity.key r)).Pairwise (· < ·) ∧
    (∀ id, id ∈ rs.map (fun r => EntityKey.text (Entity.key r)) ↔
      (s.records.find? (EntityKey.kind κ) id).isSome) ∧
    ∀ r ∈ rs, (s.serve c (Service.lookup ρ (Entity.key r))).1 = .ok (some r)

theorem Tidy.answers {s : Session σ} (h : s.Tidy) (c : Cloud σ) (ρ : Type) {κ : Type}
    [Entity ρ κ] [SoundType ρ] : s.Answers c ρ where
  lookup key := by
    have hholds : s.records.Holds ρ := SoundType.holds h.sound
    obtain ⟨found, hfound⟩ := hholds.readable key
    refine ⟨found, ?_, MemoryStore.isSome_read hfound, ?_⟩
    · rw [serve_lookup]
      exact hfound
    · rintro r rfl
      exact hholds.key_eq hfound
  scan := by
    have hholds : s.records.Holds ρ := SoundType.holds h.sound
    obtain ⟨rs, hrs, hmem, hascending⟩ := MemoryStore.exists_records h.ordered hholds
    refine ⟨rs, ?_, List.pairwise_map.2 hascending, fun id => ?_, fun r hr => ?_⟩
    · rw [serve_records]
      exact hrs
    · constructor
      · intro hid
        obtain ⟨r, hr, rfl⟩ := List.mem_map.1 hid
        rw [← MemoryStore.isSome_read ((hmem r).1 hr)]
        rfl
      · intro hid
        obtain ⟨x, hx⟩ := Option.isSome_iff_exists.1 hid
        obtain ⟨r, hdecode, rfl⟩ := hholds id x hx
        exact List.mem_map.2 ⟨r, (hmem r).2 (MemoryStore.read_eq_some.2 ⟨x, hx, hdecode⟩), rfl⟩
    · rw [serve_lookup]
      exact (hmem r).1 hr

end Session

/-- **Calls keep a store sound.** A store in memory is opened with a snapshot of sound records, or
empty, and any calls of any types with any mutations are made on it. Whenever some of them have been
made, every record decodes and lies under the text of its own key; the next call writes nothing or
one record under the key it is for, whose version it raises by one, and touches no other; a call that
fails writes nothing; what is stored stays stored; and look-ups and scans of all types answer with
the stored records. -/
theorem calls_keep_store_sound (c : Cloud σ) {snapshot : Snapshot} (hordered : snapshot.Ordered)
    (hsound : (MemoryStore.ofSnapshot snapshot).Sound) {start : Session σ}
    (hstart : start.backend = .memory (.ofSnapshot snapshot)) (earlier later : List RecordCall)
    (call : RecordCall) :
    let s := RecordCall.runAll c earlier start
    let t := (call.run c s).2
    let u := RecordCall.runAll c later t
    s.records.Sound ∧
    call.call.Effect s.records t.records ∧
    (∀ f, (call.run c s).1 = .error f → t.records = s.records) ∧
    (∀ kind id, (s.records.find? kind id).isSome → (u.records.find? kind id).isSome) ∧
    (∀ {ρ κ : Type} [Entity ρ κ] [SoundType ρ], s.Answers c ρ) := by
  intro s t u
  have hrecords : start.records = .ofSnapshot snapshot := by
    rw [Session.records, hstart]
    rfl
  have htidy : start.Tidy := {
    inMemory := ⟨_, hstart⟩
    ordered := by rwa [hrecords, MemoryStore.snapshot_ofSnapshot]
    sound := by rwa [hrecords] }
  have hs : s.Tidy := htidy.runAll c earlier
  have heffect : call.call.Effect s.records t.records := call.call.effect_run c s
  refine ⟨hs.sound, heffect, fun f hf => ?_, fun kind id hid => ?_, fun {ρ κ} _ _ => hs.answers c ρ⟩
  · have hsame : t = s := StoreCall.records_of_error hs.inMemory (Prod.ext hf rfl)
    rw [hsame]
  · exact (heffect.grows.trans (Session.grows_runAll c later t)).isSome hid

/-! ## Calls that would do harm -/

namespace Sample

/-- A transaction that would remove the instance. -/
def removing : RecordCall where
  call := .transact machine.key fun _ : Option Instance => (none, ())

/-- A transaction that would put another instance in the place of the instance. -/
def replacing : RecordCall where
  call := .transact machine.key fun _ : Option Instance =>
    (some { machine with key := ⟨managerKey, ⟨"other", by decide⟩⟩ }, ())

/-- A transaction whose mutation marks the instance as cataloged and ends in an error. -/
def failing : RecordCall where
  call := .transact machine.key fun current : Option Instance =>
    (current.map fun i => { i with cataloged := true }, (.error "refused" : Except String Unit))

end Sample

/-- The removal and the replacement are refused; the mutation that ends in an error has written. -/
theorem harmful_calls_keep_store_sound :
    let s := RecordCall.runAll CloudScript.cloud [Sample.removing] Sample.session
    let t := (Sample.replacing.run CloudScript.cloud s).2
    let u := RecordCall.runAll CloudScript.cloud [Sample.failing] t
    s.records.Sound ∧ t.records = s.records ∧ s.Answers CloudScript.cloud Instance ∧
      u.records.version .machine (EntityKey.text Sample.machine.key) = 2 := by
  have hordered : Sample.store.snapshot.Ordered :=
    MemoryStore.ordered_fill (s := {}) Snapshot.ordered_empty Sample.records
  have hfill : MemoryStore.ofSnapshot Sample.store.snapshot = Sample.store := by decide +kernel
  have hsound : (MemoryStore.ofSnapshot Sample.store.snapshot).Sound := hfill ▸ Sample.sound
  have hstart : Sample.session.backend = .memory (.ofSnapshot Sample.store.snapshot) := by
    rw [hfill]
    rfl
  obtain ⟨hs, -, herror, -, hanswers⟩ := calls_keep_store_sound CloudScript.cloud hordered hsound
    hstart [Sample.removing] [Sample.failing] Sample.replacing
  have hrefused : (Sample.replacing.run CloudScript.cloud
      (RecordCall.runAll CloudScript.cloud [Sample.removing] Sample.session)).1 =
        .error (.of (.store (.keyMismatch .machine "base rev zone vm" "base rev zone other"))) := by
    decide +kernel
  exact ⟨hs, herror _ hrefused, hanswers, by decide +kernel⟩

end FleetReconciler
