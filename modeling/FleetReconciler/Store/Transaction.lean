import FleetReconciler.Service

/-!
# Reading and writing records

Records are read by key and written by transactions. A transaction reads a record, computes the next
one, and writes it on the condition that nobody has written in between; a lost race starts it over.

* `Service.lookup`, `Service.records` — one record, all records of a kind;
* `Service.transactWith` — the attempts of a transaction, each with what the last ones remember;
* `Service.transact` — a transaction, with the word whether it wrote;
* `maxTransactionAttempts` — how many lost races end it.
-/

namespace FleetReconciler

/-- How often a transaction is attempted. -/
def maxTransactionAttempts : Nat := 4

/-- What a finished transaction leaves: the value of the mutation, and whether it wrote. -/
structure Committed (β : Type) where
  value : β
  wrote : Bool
  deriving DecidableEq, Repr

namespace Service

variable {ρ κ β : Type} [Entity ρ κ]

/-- The record of a stored value. -/
def decodeRecord (kind : Kind) (id : String) (value : Json) : Except Failure ρ :=
  (Entity.decode value).mapError fun e => .of (.store (.corrupt kind id e))

/-- The version and the record of what was read. -/
def decodeStored (kind : Kind) (id : String) :
    Option Stored → Except Failure (Nat × Option ρ)
  | none => .ok (0, none)
  | some s => do return (s.version, some (← decodeRecord kind id s.value))

/-- Reads a record with its version. -/
def readRecord (ρ : Type) {κ : Type} [Entity ρ κ] (purpose : Purpose) (id : String) :
    Service (Nat × Option ρ) := do
  let kind := EntityKey.kind κ
  lift (decodeStored kind id (← lift (← request (.read purpose kind id))))

/-- The record with a key, if there is one. -/
def lookup (ρ : Type) {κ : Type} [Entity ρ κ] (key : κ) : Service (Option ρ) := do
  return (← readRecord ρ .lookup (EntityKey.text key)).2

/-- All records of a type in the order of their ids. The first that is corrupt is the failure. -/
def records (ρ : Type) {κ : Type} [Entity ρ κ] : Service (List ρ) := do
  let kind := EntityKey.kind κ
  let rows ← lift (← request (.scan kind))
  lift (rows.mapM fun (id, value) => decodeRecord kind id value)

/-- The record that a transaction on `key` may write in the place of `current`: none if nothing
changes. It must be a record with that key. -/
def nextRecord [DecidableEq ρ] (key : κ) (current next : Option ρ) : Except Failure (Option ρ) :=
  let kind := EntityKey.kind κ
  let id := EntityKey.text key
  if next = current then .ok none
  else
    match next with
    | none => .error (.of (.removal kind id))
    | some r =>
      if EntityKey.components (Entity.key r) = EntityKey.components key then .ok (some r)
      else .error (.of (.store (.keyMismatch kind id (EntityKey.text (Entity.key r)))))

/-- A transaction that has lost `overtaken` races and may lose `left` more, the last of which ends
it. The mutation may remember something from one attempt to the next; what it remembers in the end
is given with the result. -/
def transactWith [DecidableEq ρ] {γ : Type} (key : κ)
    (mutate : γ → Option ρ → (Option ρ × β) × γ) :
    (overtaken left : Nat) → (memory : γ) → Service (Except Failure (Committed β) × γ)
  | overtaken, 0, memory =>
    let contention := .contention (EntityKey.kind κ) (EntityKey.text key) overtaken
    return (.error (.of (.store contention)), memory)
  | overtaken, left + 1, memory => do
    let kind := EntityKey.kind κ
    let id := EntityKey.text key
    match ← (readRecord ρ (.transaction overtaken) id).result with
    | .error f => return (.error f, memory)
    | .ok (version, current) =>
      let ((next, value), memory) := mutate memory current
      match nextRecord key current next with
      | .error f => return (.error f, memory)
      | .ok none => return (.ok ⟨value, false⟩, memory)
      | .ok (some r) =>
        if ← request (.commit kind id version (Entity.stored r)) then
          let saved ← request .save
          return (saved.map fun _ => ⟨value, true⟩, memory)
        else transactWith key mutate (overtaken + 1) left memory

/-- Such a transaction with a mutation that remembers nothing. -/
def transactFrom [DecidableEq ρ] (key : κ) (mutate : Option ρ → Option ρ × β)
    (overtaken left : Nat) : Service (Committed β) := do
  let forgetful := fun (_ : Unit) current => (mutate current, ())
  lift (← transactWith key forgetful overtaken left ()).1

/-- A transaction on the record with a key. The mutation gives the next record and a value; it is
applied to the record as it is at each attempt. -/
def transact [DecidableEq ρ] (key : κ) (mutate : Option ρ → Option ρ × β) :
    Service (Committed β) :=
  transactFrom key mutate 0 maxTransactionAttempts

end Service

end FleetReconciler
