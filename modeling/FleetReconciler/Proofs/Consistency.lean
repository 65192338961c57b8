import FleetReconciler.Proofs.Upkeep

/-!
# Consistent stores

In a consistent store every record is what its key says, and a manager lists only instances of its
own that have records.

* `MemoryStore.Each` — what holds of every record of a kind;
* `Instance.FitsKey`, `MemoryStore.ListsOwn` — what an instance and the list of a manager must meet;
* `MemoryStore.Consistent` — all of it;
* `Upkeep.consistent` — **every write of a service leaves a consistent store consistent**.
-/

namespace FleetReconciler

/-- An instance is what its key says. -/
structure Instance.FitsKey (i : Instance) : Prop where
  manager : i.instanceGroupManager = i.key.parent
  hostname : i.hostname = i.key.name.text
  url : ∀ url, i.url? = some url → instanceName? url = some i.key.name.text

/-- An instance that was just discovered is what its key says if its URL names it. -/
theorem Instance.fitsKey_discovered {key : InstanceKey} {url : String}
    (h : instanceName? url = some key.name.text) : (discovered key url key.parent).FitsKey where
  manager := rfl
  hostname := rfl
  url url' hurl := by
    simp only [url?, discovered, Text.nonEmpty?, Option.filter_eq_some_iff, Option.some.injEq]
      at hurl
    exact hurl.1 ▸ h

/-- A change leaves an instance what its key says. -/
theorem Instance.Step.fitsKey {i j : Instance} (h : i.Step j) (hi : i.FitsKey) : j.FitsKey := by
  cases h <;> exact ⟨hi.manager, hi.hostname, hi.url⟩

namespace MemoryStore

/-- The instances that a manager lists are its own and have records. -/
def ListsOwn (s : MemoryStore) (m : Manager) : Prop :=
  ∀ key ∈ m.instances, key.parent = m.key ∧ s.HasInstance key

/-- Every record of a type decodes, lies under the text of its own key and has a property. -/
def Each (ρ : Type) {κ : Type} [Entity ρ κ] (P : ρ → Prop) (s : MemoryStore) : Prop :=
  ∀ row ∈ s.rows (EntityKey.kind κ),
    ∃ r : ρ, Entity.decode row.2 = .ok r ∧ EntityKey.text (Entity.key r) = row.1 ∧ P r

/-- Every record is what its key says, and the lists of the managers name records. -/
structure Consistent (s : MemoryStore) : Prop where
  templates : s.Each Template fun _ => True
  revisions : s.Each Revision fun _ => True
  managers : s.Each Manager s.ListsOwn
  instances : s.Each Instance Instance.FitsKey

/-! ## Rows -/

theorem mem_rows {s : MemoryStore} {kind : Kind} {id : String} {x : Stored}
    (h : s.find? kind id = some x) : (id, x.value) ∈ s.rows kind :=
  List.mem_map.2 ⟨(id, x), Table.mem_of_get?_eq_some h, rfl⟩

/-- After a write there are the rows that were there before and the one written. -/
theorem mem_rows_put {s : MemoryStore} {kind other : Kind} {id : String} {value : Json}
    {row : String × Json} (h : row ∈ (s.put kind id value).rows other) :
    other = kind ∧ row = (id, value) ∨ row ∈ s.rows other := by
  unfold rows put at h
  by_cases hkind : other = kind
  · subst hkind
    simp only [table_insert_self] at h
    obtain ⟨p, hp, rfl⟩ := List.mem_map.1 h
    rcases Table.mem_insert hp with rfl | hp
    · exact .inl ⟨rfl, rfl⟩
    · exact .inr (List.mem_map_of_mem hp)
  · rw [table_insert_of_ne _ fun hname => hkind (Kind.name_injective hname)] at h
    exact .inr h

section Each

variable {ρ κ : Type} [Entity ρ κ] {P Q : ρ → Prop} {s : MemoryStore}

theorem Each.mono (h : s.Each ρ P) (himp : ∀ r, P r → Q r) : s.Each ρ Q := by
  intro row hrow
  obtain ⟨r, hdecode, hkey, hr⟩ := h row hrow
  exact ⟨r, hdecode, hkey, himp r hr⟩

/-- A write of another kind changes no record of this kind. -/
theorem Each.put_other (h : s.Each ρ P) {kind : Kind} (hkind : EntityKey.kind κ ≠ kind)
    (id : String) (value : Json) : (s.put kind id value).Each ρ P := by
  intro row hrow
  rcases mem_rows_put hrow with ⟨hsame, -⟩ | hold
  · exact (hkind hsame).elim
  · exact h row hold

/-- A record with the property is written under its own key. -/
theorem Each.put_self [LawfulEntity ρ] (h : s.Each ρ P) {r : ρ} (hr : P r) :
    (s.put (EntityKey.kind κ) (EntityKey.text (Entity.key r)) (Entity.stored r)).Each ρ P := by
  intro row hrow
  rcases mem_rows_put hrow with ⟨-, rfl⟩ | hold
  · exact ⟨r, LawfulEntity.decode_stored r, rfl, hr⟩
  · exact h row hold

/-- What is stored under the text of a key is a record with that key. -/
theorem Each.find? [LawfulKey κ] (h : s.Each ρ P) {key : κ} {x : Stored}
    (hx : s.find? (EntityKey.kind κ) (EntityKey.text key) = some x) :
    ∃ r : ρ, Entity.decode x.value = .ok r ∧ Entity.key r = key ∧ P r := by
  obtain ⟨r, hdecode, hkey, hr⟩ := h _ (mem_rows hx)
  exact ⟨r, hdecode, EntityKey.text_injective hkey, hr⟩

/-- A record that is read has the property. -/
theorem Each.of_read [LawfulKey κ] (h : s.Each ρ P) {key : κ} {r : ρ}
    (hread : s.read ρ key = .ok (some r)) : P r := by
  obtain ⟨x, hx, hdecode⟩ := read_eq_some.1 hread
  obtain ⟨r', hdecode', -, hr'⟩ := h.find? hx
  obtain rfl : r = r' := Except.ok.inj (hdecode.symm.trans hdecode')
  exact hr'

end Each

/-! ## Writes -/

/-- A list that names records goes on doing so. -/
theorem Grows.listsOwn {s t : MemoryStore} (h : s.Grows t) {m : Manager} (hm : s.ListsOwn m) :
    t.ListsOwn m :=
  fun key hkey => ⟨(hm key hkey).1, h.isSome (hm key hkey).2⟩

theorem consistent_empty : Consistent {} where
  templates := nofun
  revisions := nofun
  managers := nofun
  instances := nofun

/-- What a record must meet to be written to a consistent store. -/
def Fits (s : MemoryStore) : AnyRecord → Prop
  | .template _ | .revision _ => True
  | .manager m => s.ListsOwn m
  | .machine i => i.FitsKey

/-- A consistent store stays consistent when a record that fits is written under its key. -/
theorem Consistent.apply {s : MemoryStore} (h : s.Consistent) {r : AnyRecord} (hr : s.Fits r) :
    (s.apply r.write).Consistent := by
  have hgrows : s.Grows (s.apply r.write) := grows_put s r.write.kind r.write.id r.write.value
  -- the lists of managers go on naming records
  have hmanagers : s.Each Manager (s.apply r.write).ListsOwn :=
    h.managers.mono fun _ => hgrows.listsOwn
  have hother {ρ κ : Type} [Entity ρ κ] {P : ρ → Prop} (hs : s.Each ρ P)
      (hkind : EntityKey.kind κ ≠ r.write.kind) : (s.apply r.write).Each ρ P :=
    hs.put_other hkind r.write.id r.write.value
  cases r with
  | template r => exact ⟨h.templates.put_self trivial, hother h.revisions nofun,
      hother hmanagers nofun, hother h.instances nofun⟩
  | revision r => exact ⟨hother h.templates nofun, h.revisions.put_self trivial,
      hother hmanagers nofun, hother h.instances nofun⟩
  | manager m => exact ⟨hother h.templates nofun, hother h.revisions nofun,
      hmanagers.put_self (hgrows.listsOwn hr), hother h.instances nofun⟩
  | machine i => exact ⟨hother h.templates nofun, hother h.revisions nofun,
      hother hmanagers nofun, h.instances.put_self hr⟩

/-- A store that is filled with records that fit is consistent. -/
theorem consistent_fill {s : MemoryStore} (h : s.Consistent) {records : List AnyRecord}
    (hall : ∀ r ∈ records, ∀ t : MemoryStore, t.Fits r) :
    (records.foldl (fun s r => s.apply r.write) s).Consistent := by
  induction records generalizing s with
  | nil => exact h
  | cons r records ih =>
    exact ih (h.apply (hall r List.mem_cons_self s))
      fun r' hr' => hall r' (List.mem_cons_of_mem _ hr')

/-- **Every write of a service leaves a consistent store consistent.** -/
theorem Upkeep.consistent {s : MemoryStore} {w : Write} (h : s.Upkeep w) (hs : s.Consistent) :
    (s.apply w).Consistent := by
  cases h with
  | @change i j found step =>
    have hfits : s.Fits (.machine j) := step.fitsKey (hs.instances.of_read found)
    rw [← step.key_eq]
    exact hs.apply hfits
  | @create key url missing named =>
    have hfits : s.Fits (.machine (.discovered key url key.parent)) :=
      Instance.fitsKey_discovered named
    exact hs.apply hfits
  | @list m instances found listed =>
    have hfits : s.Fits (.manager { m with instances }) := listed
    exact hs.apply hfits

theorem Tended.consistent {s t : MemoryStore} (h : s.Tended t) (hs : s.Consistent) :
    t.Consistent := by
  rcases h with rfl | ⟨w, hw, rfl⟩
  · exact hs
  · exact hw.consistent hs

end MemoryStore

end FleetReconciler
