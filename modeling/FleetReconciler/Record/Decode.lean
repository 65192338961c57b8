import FleetReconciler.Json.Printer
import FleetReconciler.Key.Reader
import FleetReconciler.Key.Set
import FleetReconciler.Timestamp.Reader
import FleetReconciler.Timestamp.Printer

/-!
# Decoding JSON values

A record is written as an object, or as an array of its members in their declared order. Members
that the record does not know are skipped in an object; the last members of an array may be missing
when they have a default. Of several faults the first in the order of the value counts, which for an
object is the order of the names; a missing member counts only when all that are there are sound.

* `DecodeError`, `DecodeError.message` — the causes of failure and their wording;
* `RecordShape.view` — the given members of a record, every one of them checked;
* `required`, `defaulted` — a member of a view.
-/

namespace FleetReconciler

/-- What was found in the place of something else. -/
inductive Found where
  | boolean (value : Bool)
  | integer (value : Int)
  | double (bits : UInt64)
  | string (value : String)
  | null
  | sequence
  | map
  deriving DecidableEq, Repr

/-- The words for what was found. -/
def Found.text : Found → String
  | .boolean b => "boolean `" ++ (if b then "true" else "false") ++ "`"
  | .integer i => "integer `" ++ Decimal.intText i ++ "`"
  | .double bits => "floating point `" ++ String.ofList (Json.Number.floatText bits) ++ "`"
  | .string s => "string " ++ Text.quoted s
  | .null => "null"
  | .sequence => "sequence"
  | .map => "map"

/-- What a JSON value is when it is not what was asked for. -/
def Found.ofJson : Json → Found
  | .null => .null
  | .bool b => .boolean b
  | .num (.int i) => .integer i
  | .num (.float bits) => .double bits
  | .str s => .string s
  | .arr _ => .sequence
  | .obj _ => .map

/-- Why a value cannot be decoded. -/
inductive DecodeError where
  | invalidType (found : Found) (expected : String)
  | invalidValue (found : Found) (expected : String)
  | invalidLength (length : Nat) (expected : String)
  | missingField (name : String)
  | unknownVariant (name : String) (known : List String)
  | badKey (error : KeyError)
  | badTimestamp (error : TimestampError)
  deriving DecidableEq, Repr

/-- The wording of a decode error. -/
def DecodeError.message : DecodeError → String
  | .invalidType found expected => "invalid type: " ++ found.text ++ ", expected " ++ expected
  | .invalidValue found expected => "invalid value: " ++ found.text ++ ", expected " ++ expected
  | .invalidLength n expected => "invalid length " ++ Decimal.text n ++ ", expected " ++ expected
  | .missingField name => "missing field `" ++ name ++ "`"
  | .unknownVariant name known =>
    "unknown variant `" ++ name ++ "`, expected one of " ++
      Text.joinWith ", " (known.map fun k => "`" ++ k ++ "`")
  | .badKey e => e.message
  | .badTimestamp e => e.message

/-- A reader of values of one type. -/
abbrev Decoder (α : Type) := Json → Except DecodeError α

namespace Decode

/-- Reports that a value is not what was asked for. -/
def mismatch {α : Type} (expected : String) (j : Json) : Except DecodeError α :=
  .error (.invalidType (Found.ofJson j) expected)

/-! ## Plain values -/

/-- A string. -/
def string : Decoder String
  | .str s => .ok s
  | j => mismatch "a string" j

/-- A boolean. -/
def boolean : Decoder Bool
  | .bool b => .ok b
  | j => mismatch "a boolean" j

/-- A natural number up to `max`, whose type goes by the name `expected`. -/
def natural (expected : String) (max : Nat) : Decoder Nat
  | .num (.int i) =>
    if 0 ≤ i ∧ i ≤ max then .ok i.toNat else .error (.invalidValue (.integer i) expected)
  | j => mismatch expected j

/-- A 16-bit number. -/
def u16 : Decoder Nat := natural "u16" (Nat.pow 2 16 - 1)

/-- A 32-bit number. -/
def u32 : Decoder Nat := natural "u32" (Nat.pow 2 32 - 1)

/-- A 64-bit number. -/
def u64 : Decoder Nat := natural "u64" (Nat.pow 2 64 - 1)

/-- A number of the machine's word size, 64 bits. -/
def usize : Decoder Nat := natural "usize" (Nat.pow 2 64 - 1)

/-- A value or null. -/
def optional {α : Type} (d : Decoder α) : Decoder (Option α)
  | .null => .ok none
  | j => (d j).map some

/-- A list of values. -/
def list {α : Type} (d : Decoder α) : Decoder (List α)
  | .arr xs => xs.mapM d
  | j => mismatch "a sequence" j

/-- A table of values. -/
def table {α : Type} (d : Decoder α) : Decoder (Table α)
  | .obj ms => do
    let pairs ← ms.mapM fun (n, j) => do return (n, ← d j)
    return Table.ofList pairs
  | j => mismatch "a map" j

/-- A key. -/
def key {κ : Type} [EntityKey κ] : Decoder κ := fun j => do
  let s ← string j
  (EntityKey.parse s).mapError .badKey

/-- A set of keys, in the order of keys. -/
def keySet {κ : Type} [EntityKey κ] : Decoder (KeySet κ) := fun j => do
  return KeySet.ofList (← list key j)

/-- A timestamp. -/
def timestamp : Decoder Timestamp
  | .str s => (Timestamp.parse s).mapError .badTimestamp
  | j => mismatch "an RFC 3339 formatted date and time string" j

end Decode

/-! ## Records -/

/-- A member of a record: its name and the reader of its values. -/
structure Field (α : Type) where
  name : String
  decode : Decoder α

/-- A member with its type left out: what is needed to check a given value. -/
structure FieldShape where
  name : String
  required : Bool
  check : Json → Except DecodeError Unit

/-- A member that has to be given. -/
def Field.needed {α : Type} (f : Field α) : FieldShape :=
  ⟨f.name, true, fun j => (f.decode j).map fun _ => ()⟩

/-- A member that has a default. -/
def Field.spare {α : Type} (f : Field α) : FieldShape :=
  ⟨f.name, false, fun j => (f.decode j).map fun _ => ()⟩

/-- A record: its name and its members in declared order. -/
structure RecordShape where
  name : String
  fields : List FieldShape

/-- The words for a record of a shape. -/
def RecordShape.expected (s : RecordShape) : String := "struct " ++ s.name

namespace RecordShape

/-- Checks the known members of an object in the order in which they stand there. -/
def checkMembers (fields : List FieldShape) : List (String × Json) → Except DecodeError Unit
  | [] => .ok ()
  | (n, j) :: rest => do
    match fields.find? (fun f => f.name = n) with
    | some f => f.check j
    | none => pure ()
    checkMembers fields rest

/-- Pairs the items of an array with the members, checking each. An item may be missing only where
the member has a default. -/
def pairItems (whole : String) : Nat → List FieldShape → List Json →
    Except DecodeError (List (String × Json))
  | _, [], _ => .ok []
  | i, f :: fs, [] =>
    if f.required then .error (.invalidLength i whole) else pairItems whole (i + 1) fs []
  | i, f :: fs, j :: js => do
    f.check j
    let rest ← pairItems whole (i + 1) fs js
    return (f.name, j) :: rest

/-- The given members of a record. -/
def view (s : RecordShape) : Json → Except DecodeError (List (String × Json))
  | .obj ms => do
    checkMembers s.fields ms
    return ms
  | .arr items => do
    let whole := s.expected ++ " with " ++ Decimal.text s.fields.length ++
      (if s.fields.length = 1 then " element" else " elements")
    let given ← pairItems whole 0 s.fields items
    if items.length > s.fields.length then
      throw (.invalidLength items.length "fewer elements in array")
    return given
  | j => Decode.mismatch s.expected j

end RecordShape

/-- The value of a member that has to be given. -/
def Field.required {α : Type} (f : Field α) (view : List (String × Json)) : Except DecodeError α :=
  match Table.get? f.name view with
  | some j => f.decode j
  | none => .error (.missingField f.name)

/-- The value of a member that has a default. -/
def Field.defaulted {α : Type} (f : Field α) (default : α) (view : List (String × Json)) :
    Except DecodeError α :=
  match Table.get? f.name view with
  | some j => f.decode j
  | none => .ok default

/-- An object of the members that are there, in the given order. -/
def Json.ofMembers (members : List (Option (String × Json))) : Json :=
  .obj (members.filterMap id)

end FleetReconciler
