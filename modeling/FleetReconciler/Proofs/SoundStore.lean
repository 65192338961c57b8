import FleetReconciler.Proofs.Transaction
import FleetReconciler.Proofs.RecordText

/-!
# Stores of sound records

* `read_eq_some` — what is read is the record of the value that is there;
* `read_put_self`, `read_put_of_ne` — what is read after a record was written;
* `MemoryStore.Sound` — every record decodes and lies under the text of its own key;
* `Sound.apply` — a store stays sound when a record is written under its key;
* `Sample.store` — a small store on which deletions are tried out.
-/

namespace FleetReconciler

namespace MemoryStore

section Reading

variable {ρ κ : Type} [Entity ρ κ]

theorem read_eq_none {s : MemoryStore} {key : κ} :
    s.read ρ key = .ok none ↔ s.find? (EntityKey.kind κ) (EntityKey.text key) = none := by
  unfold read
  cases s.find? (EntityKey.kind κ) (EntityKey.text key) with
  | none => exact ⟨fun _ => rfl, fun _ => rfl⟩
  | some x =>
    simp only [Service.decodeStored, Service.decodeRecord]
    cases (Entity.decode x.value : Except DecodeError ρ) <;>
      simp [Except.mapError, Except.map, bind, Except.bind, pure, Except.pure]

/-- What is read is the record of the value that is there. -/
theorem read_eq_some {s : MemoryStore} {key : κ} {r : ρ} :
    s.read ρ key = .ok (some r) ↔
      ∃ x, s.find? (EntityKey.kind κ) (EntityKey.text key) = some x ∧ Entity.decode x.value = .ok r := by
  unfold read
  cases s.find? (EntityKey.kind κ) (EntityKey.text key) with
  | none => exact ⟨nofun, nofun⟩
  | some x =>
    simp only [Service.decodeStored, Service.decodeRecord, Option.some.injEq, exists_eq_left']
    cases (Entity.decode x.value : Except DecodeError ρ) <;>
      simp [Except.mapError, Except.map, bind, Except.bind, pure, Except.pure]

/-- A record is read where there is one. -/
theorem isSome_read {s : MemoryStore} {key : κ} {current : Option ρ}
    (h : s.read ρ key = .ok current) :
    current.isSome = (s.find? (EntityKey.kind κ) (EntityKey.text key)).isSome := by
  cases current with
  | none =>
    rw [read_eq_none.1 h]
    rfl
  | some r =>
    obtain ⟨x, hx, -⟩ := read_eq_some.1 h
    rw [hx]
    rfl

/-- The value that a reading has decoded. -/
theorem decode_of_read {s : MemoryStore} {key : κ} {r : ρ} {x : Stored}
    (hread : s.read ρ key = .ok (some r))
    (hx : s.find? (EntityKey.kind κ) (EntityKey.text key) = some x) :
    Entity.decode x.value = .ok r := by
  obtain ⟨x', hx', hdecode⟩ := read_eq_some.1 hread
  obtain rfl : x' = x := Option.some.inj (hx'.symm.trans hx)
  exact hdecode

/-- A written record is read back. -/
theorem read_put_self [LawfulEntity ρ] (s : MemoryStore) (key : κ) (r : ρ) :
    (s.put (EntityKey.kind κ) (EntityKey.text key) (Entity.stored r)).read ρ key =
      .ok (some r) :=
  read_eq_some.2 ⟨_, find?_put_self .., LawfulEntity.decode_stored r⟩

/-- A write to another record changes nothing of what is read. -/
theorem read_put_of_ne (s : MemoryStore) {key : κ} {kind : Kind} {id : String}
    (h : ¬ (EntityKey.kind κ = kind ∧ EntityKey.text key = id)) (value : Json) :
    (s.put kind id value).read ρ key = s.read ρ key := by
  unfold read
  rw [find?_put, if_neg h]

end Reading

section Holding

variable {ρ κ : Type} [Entity ρ κ]

/-- Every record of a type decodes and lies under the text of its own key. -/
def Holds (ρ : Type) {κ : Type} [Entity ρ κ] (s : MemoryStore) : Prop :=
  ∀ id x, s.find? (EntityKey.kind κ) id = some x →
    ∃ r : ρ, Entity.decode x.value = .ok r ∧ EntityKey.text (Entity.key r) = id

/-- A record that is read has the key under which it was looked for. -/
theorem Holds.key_eq [LawfulKey κ] {s : MemoryStore} (h : s.Holds ρ) {key : κ} {r : ρ}
    (hread : s.read ρ key = .ok (some r)) : Entity.key r = key := by
  obtain ⟨x, hfound, hdecode⟩ := read_eq_some.1 hread
  obtain ⟨r', hdecode', hkey⟩ := h _ x hfound
  obtain rfl : r = r' := Except.ok.inj (hdecode.symm.trans hdecode')
  exact EntityKey.text_injective hkey

/-- A record of the type is written under its own key. -/
theorem Holds.put_self [LawfulEntity ρ] {s : MemoryStore} (h : s.Holds ρ) (r : ρ) :
    (s.put (EntityKey.kind κ) (EntityKey.text (Entity.key r)) (Entity.stored r)).Holds ρ := by
  intro id x hfound
  rw [find?_put] at hfound
  split at hfound
  · rename_i hid
    cases hfound
    exact ⟨r, LawfulEntity.decode_stored r, hid.2.symm⟩
  · exact h id x hfound

/-- A record of another kind is written. -/
theorem Holds.put_other {s : MemoryStore} (h : s.Holds ρ) (kind : Kind) (id : String) (value : Json)
    (hkind : EntityKey.kind κ ≠ kind) :
    (s.put kind id value).Holds ρ := by
  intro other x hfound
  rw [find?_put, if_neg fun heq => hkind heq.1] at hfound
  exact h other x hfound

end Holding

/-- Every record decodes and lies under the text of its own key. -/
structure Sound (s : MemoryStore) : Prop where
  templates : s.Holds Template
  revisions : s.Holds Revision
  managers : s.Holds Manager
  instances : s.Holds Instance

theorem sound_empty : Sound {} where
  templates _ _ h := by cases h
  revisions _ _ h := by cases h
  managers _ _ h := by cases h
  instances _ _ h := by cases h

/-- A store stays sound when a record is written under its key. -/
theorem Sound.apply {s : MemoryStore} (h : s.Sound) (r : AnyRecord) : (s.apply r.write).Sound := by
  have hother {ρ κ : Type} [Entity ρ κ] (hs : s.Holds ρ) (hkind : EntityKey.kind κ ≠ r.write.kind) :
      (s.apply r.write).Holds ρ := hs.put_other r.write.kind r.write.id r.write.value hkind
  cases r with
  | template r => exact ⟨h.templates.put_self r, hother h.revisions nofun,
      hother h.managers nofun, hother h.instances nofun⟩
  | revision r => exact ⟨hother h.templates nofun, h.revisions.put_self r,
      hother h.managers nofun, hother h.instances nofun⟩
  | manager r => exact ⟨hother h.templates nofun, hother h.revisions nofun,
      h.managers.put_self r, hother h.instances nofun⟩
  | machine r => exact ⟨hother h.templates nofun, hother h.revisions nofun,
      hother h.managers nofun, h.instances.put_self r⟩

/-- A store that is filled with records is sound. -/
theorem sound_fill {s : MemoryStore} (h : s.Sound) (records : List AnyRecord) :
    (records.foldl (fun s r => s.apply r.write) s).Sound := by
  induction records generalizing s with
  | nil => exact h
  | cons r records ih => exact ih (h.apply r)

end MemoryStore

/-! ## A small store -/

namespace Sample

/-- The key of a manager. -/
def managerKey : ManagerKey :=
  ⟨⟨⟨⟨"base", by decide⟩⟩, ⟨"rev", by decide⟩⟩, ⟨"zone", by decide⟩⟩

/-- An instance of the manager that is marked for deletion. -/
def machine : Instance :=
  { Instance.discovered ⟨managerKey, ⟨"vm", by decide⟩⟩ "https://x/vm" managerKey with
    pendingDeletion := true }

/-- The start of 1970. -/
def midnight : Timestamp := ⟨Timestamp.epoch, 0, 0, by decide⟩

/-- The records above the instance; the manager is drained. -/
def records : List AnyRecord := [
  .template { key := managerKey.parent.parent },
  .revision { key := managerKey.parent, project := some "p", drained := .ofList [managerKey] },
  .manager { key := managerKey },
  .machine machine]

/-- The store that holds the records. -/
def store : MemoryStore := records.foldl (fun s r => s.apply r.write) {}

/-- A session on the store in which every operation is done at once. -/
def session : Session CloudScript := { backend := .memory store, cloud := {}, clock := midnight }

theorem sound : session.records.Sound := by
  have hstore : store.Sound := MemoryStore.sound_fill MemoryStore.sound_empty records
  simpa only [session, Session.records, Backend.records] using hstore

end Sample

end FleetReconciler
