import FleetReconciler.Record.Codec

/-!
# Records in memory

The store holds JSON values under a kind and an id, each with a version. A write raises the version
of what it writes by one, so a reader that comes back with the version it has seen learns whether
anyone has written since.

* `MemoryStore.find?`, `MemoryStore.rows` — one record, the records of a kind in the order of ids;
* `MemoryStore.put` — an unconditional write;
* `MemoryStore.commit` — a write on the condition that the version is still the expected one;
* `MemoryStore.snapshot`, `MemoryStore.ofSnapshot` — the values without their versions, and back.
-/

namespace FleetReconciler

/-- A stored value with the number of times it was written. The number is unbounded here; that a
counter of 64 bits would wrap around after 2 ^ 64 writes is left out. -/
structure Stored where
  version : Nat
  value : Json
  deriving DecidableEq

/-- Stored values without versions, by kind and id. -/
abbrev Snapshot := Table (Table Json)

/-- The records by kind and id. -/
structure MemoryStore where
  tables : Table (Table Stored) := []
  deriving DecidableEq

namespace MemoryStore

/-- The records of a kind. -/
def table (s : MemoryStore) (kind : Kind) : Table Stored :=
  (Table.get? kind.name s.tables).getD []

/-- What is stored under an id. -/
def find? (s : MemoryStore) (kind : Kind) (id : String) : Option Stored :=
  Table.get? id (s.table kind)

/-- The version of a record: zero if there is none. -/
def version (s : MemoryStore) (kind : Kind) (id : String) : Nat :=
  ((s.find? kind id).map Stored.version).getD 0

/-- The ids and values of a kind in the order of ids. -/
def rows (s : MemoryStore) (kind : Kind) : List (String × Json) :=
  (s.table kind).map fun (id, r) => (id, r.value)

/-- Writes a value whatever is there. -/
def put (s : MemoryStore) (kind : Kind) (id : String) (value : Json) : MemoryStore :=
  let record : Stored := ⟨s.version kind id + 1, value⟩
  ⟨Table.insert kind.name (Table.insert id record (s.table kind)) s.tables⟩

/-- Writes a value if the version is still the expected one, and says whether it was. -/
def commit (s : MemoryStore) (kind : Kind) (id : String) (expected : Nat) (value : Json) :
    Bool × MemoryStore :=
  if s.version kind id = expected then (true, s.put kind id value) else (false, s)

/-- The stored values. -/
def snapshot (s : MemoryStore) : Snapshot :=
  s.tables.map fun (kind, t) => (kind, t.map fun (id, r) => (id, r.value))

/-- A store that holds given values, each written once. -/
def ofSnapshot (values : Snapshot) : MemoryStore :=
  ⟨values.map fun (kind, t) => (kind, t.map fun (id, value) => (id, ⟨1, value⟩))⟩

/-! ## What a write does to every look-up -/

theorem table_insert_self (s : MemoryStore) (kind : Kind) (t : Table Stored) :
    table ⟨Table.insert kind.name t s.tables⟩ kind = t := by
  simp [table, Table.get?_insert_self]

theorem table_insert_of_ne (s : MemoryStore) {kind other : Kind} (h : other.name ≠ kind.name)
    (t : Table Stored) : table ⟨Table.insert kind.name t s.tables⟩ other = s.table other := by
  simp [table, Table.get?_insert_of_ne h]

theorem find?_put_self (s : MemoryStore) (kind : Kind) (id : String) (value : Json) :
    (s.put kind id value).find? kind id = some ⟨s.version kind id + 1, value⟩ := by
  simp [put, find?, table_insert_self, Table.get?_insert_self]

theorem find?_put_of_id_ne (s : MemoryStore) (kind : Kind) {id other : String} (h : other ≠ id)
    (value : Json) : (s.put kind id value).find? kind other = s.find? kind other := by
  simp [put, find?, table_insert_self, Table.get?_insert_of_ne h]

theorem find?_put_of_kind_ne (s : MemoryStore) {kind other : Kind} (h : other.name ≠ kind.name)
    (id id' : String) (value : Json) :
    (s.put kind id value).find? other id' = s.find? other id' := by
  simp [put, find?, table_insert_of_ne s h]

end MemoryStore

/-- The JSON value of a snapshot. -/
def Snapshot.encode (s : Snapshot) : Json :=
  .obj (s.map fun (kind, t) => (kind, .obj t))

/-- The snapshot of a JSON value: an object of objects. -/
def Snapshot.decode : Decoder Snapshot := Decode.table (Decode.table .ok)

end FleetReconciler
