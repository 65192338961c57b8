import FleetReconciler.Proofs.JsonText
import FleetReconciler.Store.File

/-!
# The text of a store file

What the library stores has its members in order, no numbers, and nests a few levels deep, so a
snapshot of such values is read back from the text of the file in which it is saved.

* `Entity.storable_stored` — a stored record is read back, for each of the four kinds;
* `Snapshot.Storable`, `read?_text` — **the text of a store file gives the snapshot**;
* `MemoryStore.snapshot_put` — a write to the store is a write to its snapshot;
* `Storable.put`, `Storable.keyed` — writes keep a snapshot storable, and its tables in order.
-/

namespace FleetReconciler

/-! ## Values -/

namespace Json

theorem storableItems_iff {depth : Nat} {items : List Json} :
    StorableItems depth items ↔ ∀ j ∈ items, j.Storable depth := by
  induction items with
  | nil => simp [StorableItems]
  | cons j items ih => simp [StorableItems, ih]

theorem storableMembers_iff {depth : Nat} {members : List (String × Json)} :
    StorableMembers depth members ↔ ∀ m ∈ members, m.2.Storable depth := by
  induction members with
  | nil => simp [StorableMembers]
  | cons m members ih =>
    obtain ⟨n, j⟩ := m
    simp only [StorableMembers, ih, List.forall_mem_cons]

theorem storable_sorted_arr {depth : Nat} (hdepth : depth < maxDepth) {items : List Json}
    (h : ∀ j ∈ items, j.sorted.Storable (depth + 1)) : (Json.arr items).sorted.Storable depth := by
  rw [sorted, sortedItems_eq_map]
  refine ⟨hdepth, storableItems_iff.2 fun j hj => ?_⟩
  obtain ⟨j', hj', rfl⟩ := List.mem_map.1 hj
  exact h j' hj'

theorem storable_sorted_obj {depth : Nat} (hdepth : depth < maxDepth)
    {members : List (String × Json)} (h : ∀ m ∈ members, m.2.sorted.Storable (depth + 1)) :
    (Json.obj members).sorted.Storable depth := by
  rw [sorted, sortedMembers_eq_map]
  refine ⟨hdepth, Table.ascending_ofList _, storableMembers_iff.2 fun m hm => ?_⟩
  obtain ⟨m', hm', rfl⟩ := List.mem_map.1 (Table.mem_of_mem_ofList hm)
  exact h m' hm'

end Json

/-! ## Records -/

/-- How deep the value of a record lies in a store file: in its table, in the snapshot. -/
def Entity.depth : Nat := 2

/-- A member is read back from inside a record if it is given. -/
def Json.FitsMember (value : Option Json) : Prop :=
  ∀ j, value = some j → j.sorted.Storable (Entity.depth + 1)

section Members

open Json

theorem fitsMember_map {α : Type} (encode : α → Json)
    (h : ∀ a, (encode a).sorted.Storable (Entity.depth + 1)) (a : Option α) :
    FitsMember (a.map encode) := by
  intro j hj
  obtain ⟨a', -, rfl⟩ := Option.map_eq_some_iff.1 hj
  exact h a'

theorem fitsMember_string (s : String) : FitsMember (some (.str s)) := by
  rintro j ⟨⟩
  trivial

theorem fitsMember_boolean (b : Bool) : FitsMember (some (.bool b)) := by
  rintro j ⟨⟩
  trivial

theorem fitsMember_items {α : Type} (encode : α → Json)
    (h : ∀ a, (encode a).sorted.Storable (Entity.depth + 2)) (items : List α) :
    FitsMember (some (.arr (items.map encode))) := by
  rintro j ⟨⟩
  refine storable_sorted_arr (by decide) fun j hj => ?_
  obtain ⟨a, -, rfl⟩ := List.mem_map.1 hj
  exact h a

theorem fitsMember_keys {κ : Type} [EntityKey κ] (ks : List κ) :
    FitsMember (some (Encode.keys ks)) :=
  fitsMember_items Encode.key (fun _ => trivial) ks

theorem fitsMember_string? (s : Option String) : FitsMember (s.map .str) :=
  fitsMember_map .str (fun _ => trivial) s

theorem fitsMember_timestamp? (t : Option Timestamp) : FitsMember (t.map Encode.timestamp) :=
  fitsMember_map Encode.timestamp (fun _ => trivial) t

/-- A record whose members are read back is read back. -/
theorem Entries.storable (es : Entries) (h : ∀ e ∈ es, FitsMember e.2) :
    (Json.obj es.members).sorted.Storable Entity.depth := by
  refine storable_sorted_obj (by decide) fun m hm => ?_
  obtain ⟨e, he, hvalue⟩ := List.mem_filterMap.1 hm
  obtain ⟨j, hj, rfl⟩ := Option.map_eq_some_iff.1 hvalue
  exact h e he j hj

theorem MetadataUpdate.storable_encode (u : MetadataUpdate) :
    (encode u).sorted.Storable (Entity.depth + 2) := by
  refine storable_sorted_obj (by decide) fun m hm => ?_
  obtain rfl := List.mem_singleton.1 hm
  refine storable_sorted_obj (by decide) fun p hp => ?_
  obtain ⟨q, -, rfl⟩ := List.mem_map.1 hp
  trivial

end Members

/-- A type of records of which every one is read back from a store file. -/
class StorableEntity (ρ : Type) {κ : Type} [Entity ρ κ] : Prop extends LawfulEntity ρ where
  storable_stored : ∀ r : ρ, (Entity.stored r).Storable Entity.depth

instance : StorableEntity Template where
  storable_stored t := by
    refine t.entries.storable ?_
    simp only [Template.entries, List.forall_mem_cons]
    exact ⟨fitsMember_string _, fitsMember_keys _, by simp⟩

instance : StorableEntity Revision where
  storable_stored r := by
    unfold Entity.stored
    rw [show Entity.encode r = .obj r.entries.members from r.encode_eq]
    refine r.entries.storable ?_
    simp only [Revision.entries, List.forall_mem_cons]
    exact ⟨fitsMember_string _, fitsMember_string? _, fitsMember_keys _, by simp⟩

instance : StorableEntity Manager where
  storable_stored m := by
    unfold Entity.stored
    rw [show Entity.encode m = .obj m.entries.members from m.encode_eq]
    refine m.entries.storable ?_
    simp only [Manager.entries, List.forall_mem_cons]
    exact ⟨fitsMember_string _, fitsMember_string? _, fitsMember_keys _, by simp⟩

instance : StorableEntity Instance where
  storable_stored i := by
    unfold Entity.stored
    rw [show Entity.encode i = .obj i.entries.members from i.encode_eq]
    refine i.entries.storable ?_
    simp only [Instance.entries, List.forall_mem_cons]
    exact ⟨fitsMember_string _, fitsMember_string? _, fitsMember_string _, fitsMember_string _,
      fitsMember_boolean _, fitsMember_timestamp? _, fitsMember_timestamp? _, fitsMember_boolean _,
      fitsMember_string? _, fitsMember_string? _,
      fitsMember_items MetadataUpdate.encode MetadataUpdate.storable_encode _, by simp⟩

/-! ## Snapshots -/

namespace Snapshot

/-- The values of a kind. -/
def table (s : Snapshot) (kind : Kind) : Table Json := (Table.get? kind.name s).getD []

/-- The snapshot after a write. -/
def put (s : Snapshot) (kind : Kind) (id : String) (value : Json) : Snapshot :=
  Table.insert kind.name (Table.insert id value (s.table kind)) s

theorem table_put_self (s : Snapshot) (kind : Kind) (id : String) (value : Json) :
    (s.put kind id value).table kind = Table.insert id value (s.table kind) := by
  simp [put, table, Table.get?_insert_self]

theorem table_put_of_ne (s : Snapshot) {kind other : Kind} (h : other.name ≠ kind.name)
    (id : String) (value : Json) : (s.put kind id value).table other = s.table other := by
  simp [put, table, Table.get?_insert_of_ne h]

/-- The tables are in order, and so are the records of each. -/
structure Ordered (s : Snapshot) : Prop where
  kinds : Table.Ascending s
  ids : ∀ p ∈ s, Table.Ascending p.2

theorem ordered_empty : Ordered [] := ⟨.nil, nofun⟩

theorem Ordered.table {s : Snapshot} (h : s.Ordered) (kind : Kind) : (s.table kind).Ascending := by
  unfold Snapshot.table
  cases hfound : Table.get? kind.name s with
  | none => exact .nil
  | some t => exact h.ids _ (Table.mem_of_get?_eq_some hfound)

theorem Ordered.put {s : Snapshot} (h : s.Ordered) (kind : Kind) (id : String) (value : Json) :
    (s.put kind id value).Ordered where
  kinds := Table.ascending_insert h.kinds _ _
  ids p hp := by
    rcases Table.mem_insert hp with rfl | hp
    · exact Table.ascending_insert (h.table kind) id value
    · exact h.ids p hp

/-- What a store file can hold so that it is read back as it was: tables in order, of values that
are read back. -/
structure Storable (s : Snapshot) : Prop extends s.Ordered where
  values : ∀ p ∈ s, ∀ q ∈ p.2, q.2.Storable Entity.depth

theorem storable_empty : Storable [] := ⟨ordered_empty, nofun⟩

theorem Storable.put {s : Snapshot} (h : s.Storable) (kind : Kind) (id : String) {value : Json}
    (hvalue : value.Storable Entity.depth) : (s.put kind id value).Storable where
  toOrdered := h.toOrdered.put kind id value
  values p hp q hq := by
    rcases Table.mem_insert hp with rfl | hp
    · rcases Table.mem_insert hq with rfl | hq
      · exact hvalue
      · -- the other records of the kind were there before
        unfold Snapshot.table at hq
        cases hfound : Table.get? kind.name s with
        | none =>
          rw [hfound] at hq
          cases hq
        | some t =>
          rw [hfound] at hq
          exact h.values _ (Table.mem_of_get?_eq_some hfound) q hq
    · exact h.values p hp q hq

theorem Storable.encode {s : Snapshot} (h : s.Storable) : s.encode.Storable 0 := by
  have hkinds : Table.Ascending (s.map fun p => (p.1, Json.obj p.2)) := by
    unfold Table.Ascending
    rw [List.pairwise_map]
    exact h.kinds
  refine ⟨by decide, hkinds, Json.storableMembers_iff.2 fun m hm => ?_⟩
  obtain ⟨p, hp, rfl⟩ := List.mem_map.1 hm
  exact ⟨by decide, h.ids p hp, Json.storableMembers_iff.2 (h.values p hp)⟩

/-- A table whose values are read back is read back. -/
theorem decode_table {α : Type} {d : Decoder α} (encode : α → Json) {t : Table α}
    (hascending : t.Ascending) (h : ∀ p ∈ t, d (encode p.2) = .ok p.2) :
    Decode.table d (.obj (t.map fun p => (p.1, encode p.2))) = .ok t := by
  have hpairs : (t.map fun p => (p.1, encode p.2)).mapM
      (fun p => do return (p.1, ← d p.2)) = (.ok t : Except DecodeError _) := by
    clear hascending
    induction t with
    | nil => rfl
    | cons p t ih =>
      rw [List.map_cons, List.mapM_cons, h p List.mem_cons_self,
        ih fun q hq => h q (List.mem_cons_of_mem _ hq)]
      rfl
  rw [Decode.table_obj, hpairs, ok_bind, Table.ofList_of_ascending hascending]

theorem Ordered.decode_encode {s : Snapshot} (h : s.Ordered) : decode s.encode = .ok s := by
  refine decode_table Json.obj h.kinds fun p hp => ?_
  have hread : Decode.table .ok (.obj (p.2.map fun q => (q.1, id q.2))) = .ok p.2 :=
    decode_table id (h.ids p hp) fun _ _ => rfl
  simpa using hread

end Snapshot

/-- **The text of a store file gives the snapshot.** -/
theorem FileStore.read?_text {s : Snapshot} (h : s.Storable) : read? (text s) = some s := by
  have hblank : Text.isAllBlank (text s) = false := by
    cases s with
    | nil => decide
    | cons p s =>
      have hbrace : Text.isBlank '\x7b' = false := by decide
      simp [Text.isAllBlank, text, Json.pretty, Snapshot.encode, Json.prettyText, hbrace]
  have hparse : Json.parse? (text s) = some s.encode := Json.parse?_pretty h.encode
  unfold read?
  rw [if_neg (by simp [hblank]), hparse, Option.bind_some, h.decode_encode]
  rfl

/-- A table that is read has its names in order, and values that were read. -/
theorem Decode.table_eq_ok {α : Type} {d : Decoder α} {j : Json} {t : Table α}
    (h : table d j = .ok t) : t.Ascending ∧ ∀ p ∈ t, ∃ j', d j' = .ok p.2 := by
  cases j with
  | obj members =>
    obtain ⟨pairs, hpairs, h⟩ := Except.bind_eq_ok.1 h
    cases h
    refine ⟨Table.ascending_ofList pairs, fun p hp => ?_⟩
    obtain ⟨m, -, hm⟩ := exists_of_mapM_eq_ok hpairs (Table.mem_of_mem_ofList hp)
    obtain ⟨a, ha, hm⟩ := Except.bind_eq_ok.1 hm
    cases hm
    exact ⟨m.2, ha⟩
  | _ => cases h

/-- A snapshot that is read has its tables in order. -/
theorem Snapshot.ordered_of_decode {j : Json} {s : Snapshot} (h : decode j = .ok s) :
    s.Ordered := by
  obtain ⟨hkinds, htables⟩ := Decode.table_eq_ok h
  refine ⟨hkinds, fun p hp => ?_⟩
  obtain ⟨j', hj'⟩ := htables p hp
  exact (Decode.table_eq_ok hj').1

theorem FileStore.ordered_of_read? {text : String} {s : Snapshot} (h : read? text = some s) :
    s.Ordered := by
  unfold read? at h
  split at h
  · cases h
    exact Snapshot.ordered_empty
  · obtain ⟨j, -, hj⟩ := Option.bind_eq_some_iff.1 h
    cases hdecode : Snapshot.decode j with
    | error e =>
      rw [hdecode] at hj
      cases hj
    | ok s' =>
      rw [hdecode] at hj
      cases hj
      exact Snapshot.ordered_of_decode hdecode

/-! ## Stores -/

namespace MemoryStore

theorem snapshot_table (s : MemoryStore) (kind : Kind) : s.snapshot.table kind = s.rows kind := by
  have hget := Table.get?_map (fun t : Table Stored => t.map fun p => (p.1, p.2.value)) kind.name
    s.tables
  unfold Snapshot.table rows table
  rw [show Table.get? kind.name s.snapshot = _ from hget]
  cases Table.get? kind.name s.tables <;> rfl

/-- The value under an id is found among the rows of its kind. -/
theorem get?_rows (s : MemoryStore) (kind : Kind) (id : String) :
    Table.get? id (s.rows kind) = (s.find? kind id).map Stored.value :=
  Table.get?_map Stored.value id (s.table kind)

/-- A write to the store is a write to its snapshot. -/
theorem snapshot_put (s : MemoryStore) (kind : Kind) (id : String) (value : Json) :
    (s.put kind id value).snapshot = s.snapshot.put kind id value := by
  have htables := Table.insert_map (fun t : Table Stored => t.map fun p => (p.1, p.2.value)) kind.name
    (Table.insert id ⟨s.version kind id + 1, value⟩ (s.table kind)) s.tables
  have hrecords := Table.insert_map Stored.value id ⟨s.version kind id + 1, value⟩ (s.table kind)
  unfold Snapshot.put
  rw [snapshot_table]
  exact htables.trans (congrArg (Table.insert kind.name · s.snapshot) hrecords)

/-- A write sets the row of its id. -/
theorem rows_put_self (s : MemoryStore) (kind : Kind) (id : String) (value : Json) :
    (s.put kind id value).rows kind = Table.insert id value (s.rows kind) := by
  rw [← snapshot_table, snapshot_put, Snapshot.table_put_self, snapshot_table]

/-- A write of one kind changes no rows of another. -/
theorem rows_put_of_name_ne (s : MemoryStore) {kind other : Kind} (h : other.name ≠ kind.name)
    (id : String) (value : Json) : (s.put kind id value).rows other = s.rows other := by
  rw [← snapshot_table, snapshot_put, Snapshot.table_put_of_ne _ h, snapshot_table]

theorem snapshot_ofSnapshot (s : Snapshot) : (ofSnapshot s).snapshot = s := by
  simp [snapshot, ofSnapshot, Function.comp_def]

end MemoryStore

/-- A store that was opened holds the snapshot of its file, or nothing. -/
theorem FileStore.eq_of_load {path : String} {files : FileTree} {s : FileStore}
    (h : load path files = .ok s) : ∃ snapshot, s = ⟨path, .ofSnapshot snapshot⟩ ∧
      (snapshot = [] ∨ ∃ text, files.readText path = .ok text ∧ read? text = some snapshot) := by
  unfold load at h
  split at h
  · obtain ⟨text, htext, h⟩ := Except.bind_eq_ok.1 h
    cases hread : read? text with
    | none =>
      rw [hread] at h
      cases h
    | some snapshot =>
      rw [hread] at h
      cases h
      exact ⟨snapshot, rfl, .inr ⟨text, Except.mapError_eq_ok.1 (Except.mapError_eq_ok.1 htext), hread⟩⟩
  · cases h
    exact ⟨[], rfl, .inl rfl⟩

/-- A store that was opened has its tables in order. -/
theorem FileStore.ordered_of_load {path : String} {files : FileTree} {s : FileStore}
    (h : load path files = .ok s) : s.memory.snapshot.Ordered := by
  obtain ⟨snapshot, rfl, hsource⟩ := eq_of_load h
  rw [MemoryStore.snapshot_ofSnapshot]
  rcases hsource with rfl | ⟨text, -, hread⟩
  · exact Snapshot.ordered_empty
  · exact ordered_of_read? hread

end FleetReconciler
