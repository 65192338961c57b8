import FleetReconciler.Store.Transaction

/-!
# Changes of one record

Most services change one record by one transaction: the record may be missing, it may already be as
wanted, or it is updated.
-/

namespace FleetReconciler

/-- What a change came to. -/
inductive Change where
  /-- There is no record. -/
  | missing
  /-- The record is already as wanted. -/
  | unchanged
  | updated
  deriving DecidableEq, Repr

/-- The word for what a change came to. -/
def Change.text : Change → String
  | .missing => "missing"
  | .unchanged => "unchanged"
  | .updated => "updated"

/-- The mutation of a rule that gives the next record, or none where the record is already as
wanted; its value says what it came to and which record it found. -/
def Change.mutation {ρ : Type} (rule : ρ → Option ρ) : Option ρ → Option ρ × (Change × Option ρ)
  | none => (none, .missing, none)
  | some r =>
    match rule r with
    | none => (some r, .unchanged, some r)
    | some r' => (some r', .updated, some r)

/-- Changes the record with a key by a rule, and gives what it came to and the record it found. -/
def Service.change {ρ κ : Type} [Entity ρ κ] [DecidableEq ρ] (context : Context) (key : κ)
    (rule : ρ → Option ρ) : Service (Change × Option ρ) := do
  return (← Service.within context (Service.transact key (Change.mutation rule))).value

end FleetReconciler
