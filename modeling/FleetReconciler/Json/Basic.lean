import FleetReconciler.Table

/-!
# JSON values

The members of an object that the library stores ascend by name; `Json.sorted` brings any value into
that form. A number is an integer or a double, which is kept by its 64 bits so that equality is
decidable.
-/

namespace FleetReconciler

/-- A JSON number. The reader gives integers between `-2 ^ 63` and `2 ^ 64 - 1`. -/
inductive Json.Number where
  | int (value : Int)
  | float (bits : UInt64)
  deriving DecidableEq, Repr

/-- A JSON value. -/
inductive Json where
  | null
  | bool (value : Bool)
  | num (value : Json.Number)
  | str (value : String)
  | arr (items : List Json)
  | obj (members : List (String × Json))
  deriving Repr

namespace Json

/-! ## Equality -/

mutual

/-- Decides whether two values are equal. -/
def decEq : (a b : Json) → Decidable (a = b)
  | .null, b => by
    cases b
    case null => exact isTrue rfl
    all_goals exact isFalse (by simp)
  | .bool x, b => by
    cases b
    case bool y => exact decidable_of_iff (x = y) (by simp)
    all_goals exact isFalse (by simp)
  | .num x, b => by
    cases b
    case num y => exact decidable_of_iff (x = y) (by simp)
    all_goals exact isFalse (by simp)
  | .str x, b => by
    cases b
    case str y => exact decidable_of_iff (x = y) (by simp)
    all_goals exact isFalse (by simp)
  | .arr xs, b => by
    cases b
    case arr ys => exact @decidable_of_iff _ (xs = ys) (by simp) (decEqItems xs ys)
    all_goals exact isFalse (by simp)
  | .obj xs, b => by
    cases b
    case obj ys => exact @decidable_of_iff _ (xs = ys) (by simp) (decEqMembers xs ys)
    all_goals exact isFalse (by simp)

/-- Decides whether two lists of items are equal. -/
def decEqItems : (xs ys : List Json) → Decidable (xs = ys)
  | [], [] => isTrue rfl
  | [], _ :: _ => isFalse (by simp)
  | _ :: _, [] => isFalse (by simp)
  | x :: xs, y :: ys =>
    match decEq x y, decEqItems xs ys with
    | isTrue h, isTrue t => isTrue (by rw [h, t])
    | isFalse h, _ => isFalse (fun e => h (List.cons.inj e).1)
    | _, isFalse t => isFalse (fun e => t (List.cons.inj e).2)

/-- Decides whether two lists of members are equal. -/
def decEqMembers : (xs ys : List (String × Json)) → Decidable (xs = ys)
  | [], [] => isTrue rfl
  | [], _ :: _ => isFalse (by simp)
  | _ :: _, [] => isFalse (by simp)
  | (n, x) :: xs, (k, y) :: ys =>
    match decEq x y, decEqMembers xs ys with
    | isTrue h, isTrue t =>
      if e : n = k then isTrue (by rw [e, h, t])
      else isFalse (fun p => e (Prod.mk.inj (List.cons.inj p).1).1)
    | isFalse h, _ => isFalse (fun e => h (Prod.mk.inj (List.cons.inj e).1).2)
    | _, isFalse t => isFalse (fun e => t (List.cons.inj e).2)

end

instance : DecidableEq Json := decEq

/-! ## Members in order -/

mutual

/-- The value with the members of every object in ascending order. -/
def sorted : Json → Json
  | .arr items => .arr (sortedItems items)
  | .obj members => .obj (Table.ofList (sortedMembers members))
  | .null => .null
  | .bool b => .bool b
  | .num n => .num n
  | .str s => .str s

/-- Brings the members inside every item into order. -/
def sortedItems : List Json → List Json
  | [] => []
  | x :: xs => sorted x :: sortedItems xs

/-- Brings the members inside every value into order, and keeps the order of the values. -/
def sortedMembers : List (String × Json) → List (String × Json)
  | [] => []
  | (n, x) :: xs => (n, sorted x) :: sortedMembers xs

end

/-! ## Construction and access -/

/-- A natural number as a JSON number. -/
def nat (n : Nat) : Json := .num (.int n)

/-- An array of strings. -/
def strings (xs : List String) : Json := .arr (xs.map .str)

/-- The value of a member, if the value is an object that has it. -/
def member? (j : Json) (name : String) : Option Json :=
  match j with
  | .obj ms => Table.get? name ms
  | _ => none

/-- The text of a string value. -/
def asString? : Json → Option String
  | .str s => some s
  | _ => none

end Json

end FleetReconciler
