import FleetReconciler.Json.Number

/-!
# Reading JSON texts

`Json.parse?` reads a whole text as one value. Blanks are space, tab, line feed and carriage return;
arrays and objects nest at most `maxDepth` levels; of two members with one name the later wins. A
number without fraction and exponent is an integer when it fits in 64 bits (and is not `-0`), any
other number is a double.
-/

namespace FleetReconciler.Json

open Decimal

/-- The greatest number of arrays and objects that may stand inside one another. -/
def maxDepth : Nat := 127

/-- Drops blanks at the front. -/
def skipBlanks : List Char → List Char
  | [] => []
  | c :: rest =>
    if c = ' ' ∨ c = '\n' ∨ c = '\t' ∨ c = '\r' then skipBlanks rest else c :: rest

/-! ## Strings -/

/-- The value of a hexadecimal digit. -/
def hexValue? (c : Char) : Option Nat :=
  if '0' ≤ c ∧ c ≤ '9' then some (c.toNat - 48)
  else if 'a' ≤ c ∧ c ≤ 'f' then some (c.toNat - 87)
  else if 'A' ≤ c ∧ c ≤ 'F' then some (c.toNat - 55)
  else none

/-- The value of four hexadecimal digits. -/
def hex4? (a b c d : Char) : Option Nat := do
  let a ← hexValue? a
  let b ← hexValue? b
  let c ← hexValue? c
  let d ← hexValue? d
  return ((a * 16 + b) * 16 + c) * 16 + d

/-- The character of a short escape. -/
def shortEscape? (c : Char) : Option Char :=
  match c with
  | '"' => some '"'
  | '\\' => some '\\'
  | '/' => some '/'
  | 'b' => some '\x08'
  | 'f' => some '\x0c'
  | 'n' => some '\n'
  | 'r' => some '\r'
  | 't' => some '\t'
  | _ => none

/-- The body of a string behind its opening quote. Half of a surrogate pair is refused, as is a bare
control character. -/
def stringBody? : List Char → Option (List Char × List Char)
  | [] => none
  | '"' :: rest => some ([], rest)
  | '\\' :: 'u' :: a :: b :: c :: d :: rest =>
    match hex4? a b c d with
    | none => none
    | some hi =>
      if 0xD800 ≤ hi ∧ hi ≤ 0xDBFF then
        match rest with
        | '\\' :: 'u' :: e :: f :: g :: h :: rest' =>
          match hex4? e f g h with
          | none => none
          | some lo =>
            if 0xDC00 ≤ lo ∧ lo ≤ 0xDFFF then
              (stringBody? rest').map fun (cs, r) =>
                (Char.ofNat (0x10000 + (hi - 0xD800) * 0x400 + (lo - 0xDC00)) :: cs, r)
            else none
        | _ => none
      else if 0xDC00 ≤ hi ∧ hi ≤ 0xDFFF then none
      else (stringBody? rest).map fun (cs, r) => (Char.ofNat hi :: cs, r)
  | '\\' :: c :: rest =>
    match shortEscape? c with
    | none => none
    | some e => (stringBody? rest).map fun (cs, r) => (e :: cs, r)
  | c :: rest =>
    if c.toNat < 0x20 then none
    else (stringBody? rest).map fun (cs, r) => (c :: cs, r)

/-! ## Numbers -/

/-- The greatest significand of a number. -/
def maxSignificand : Nat := Nat.pow 2 64 - 1

/-- Extends a significand by digits while it fits in 64 bits: the significand, how many digits it
took and how many were left over. -/
def accumulate (significand : Nat) : List Char → Nat × Nat × Nat
  | [] => (significand, 0, 0)
  | d :: ds =>
    let next := significand * 10 + digitValue d
    if next ≤ maxSignificand then
      let (s, taken, left) := accumulate next ds
      (s, taken + 1, left)
    else (significand, 0, ds.length + 1)

/-- The exponent part behind its letter: its sign, its digits and the rest. -/
def exponentPart? (cs : List Char) : Option (Bool × List Char × List Char) :=
  let (negative, cs) :=
    match cs with
    | '-' :: rest => (true, rest)
    | '+' :: rest => (false, rest)
    | cs => (false, cs)
  match takeDigits cs with
  | ([], _) => none
  | (ds, rest) => some (negative, ds, rest)

/-- The greatest exponent that is told apart from a larger one. -/
def maxExponent : Nat := Nat.pow 2 31 - 1

/-- The value of a significand, a power of ten for its fraction and an exponent part. -/
def scaledNumber? (negative : Bool) (significand : Nat) (scale : Int) (expNegative : Bool)
    (expDigits : List Char) : Option Number :=
  let e := valueOf expDigits
  if e > maxExponent then
    if significand ≠ 0 ∧ expNegative = false then none
    else some (.float (if negative then (-0.0 : Float) else (0.0 : Float)).toBits)
  else
    Number.ofParts? negative significand.toUInt64 (if expNegative then scale - e else scale + e)

/-- The integer of a sign and a significand; `-0` and what does not fit in 64 bits are doubles. -/
def integerNumber (negative : Bool) (significand : Nat) : Number :=
  if negative = false then .int significand
  else if significand = 0 ∨ significand > Nat.pow 2 63 then
    .float (-significand.toUInt64.toFloat).toBits
  else .int (-significand)

/-- A number behind its sign. -/
def number? (negative : Bool) (cs : List Char) : Option (Number × List Char) :=
  match takeDigits cs with
  | ([], _) => none
  | (ds, rest) =>
    if ds.length > 1 ∧ ds.head? = some '0' then none
    else
      let (significand, _, left) := accumulate 0 ds
      match rest with
      | '.' :: rest =>
        match takeDigits rest with
        | ([], _) => none
        | (fraction, rest) =>
          let (significand, taken, _) := accumulate significand fraction
          let scale : Int := (left : Int) - taken
          match rest with
          | 'e' :: rest | 'E' :: rest => do
            let (en, eds, rest) ← exponentPart? rest
            let n ← scaledNumber? negative significand scale en eds
            return (n, rest)
          | rest => (Number.ofParts? negative significand.toUInt64 scale).map (·, rest)
      | 'e' :: rest | 'E' :: rest => do
        let (en, eds, rest) ← exponentPart? rest
        let n ← scaledNumber? negative significand left en eds
        return (n, rest)
      | rest =>
        if left = 0 then some (integerNumber negative significand, rest)
        else (Number.ofParts? negative significand.toUInt64 left).map (·, rest)

/-! ## Values -/

/-- The rest behind a word that has to stand at the front. -/
def keyword? : List Char → List Char → Option (List Char)
  | [], rest => some rest
  | w :: ws, c :: cs => if w = c then keyword? ws cs else none
  | _ :: _, [] => none

mutual

/-- One value at the front of a text, inside `depth` arrays and objects. -/
def value? : Nat → Nat → List Char → Option (Json × List Char)
  | 0, _, _ => none
  | fuel + 1, depth, cs =>
    match skipBlanks cs with
    | 'n' :: rest => (keyword? "ull".toList rest).map (.null, ·)
    | 't' :: rest => (keyword? "rue".toList rest).map (.bool true, ·)
    | 'f' :: rest => (keyword? "alse".toList rest).map (.bool false, ·)
    | '"' :: rest => (stringBody? rest).map fun (s, r) => (.str (String.ofList s), r)
    | '-' :: rest => (number? true rest).map fun (n, r) => (.num n, r)
    | '[' :: rest =>
      if depth = maxDepth then none
      else
        match skipBlanks rest with
        | ']' :: rest => some (.arr [], rest)
        | rest => (items? fuel (depth + 1) rest).map fun (xs, r) => (.arr xs, r)
    | '\x7b' :: rest =>
      if depth = maxDepth then none
      else
        match skipBlanks rest with
        | '\x7d' :: rest => some (.obj [], rest)
        | rest => (members? fuel (depth + 1) rest).map fun (ms, r) => (.obj (Table.ofList ms), r)
    | rest => (number? false rest).map fun (n, r) => (.num n, r)

/-- One or more items and the closing bracket. -/
def items? : Nat → Nat → List Char → Option (List Json × List Char)
  | 0, _, _ => none
  | fuel + 1, depth, cs =>
    match value? fuel depth cs with
    | none => none
    | some (x, rest) =>
      match skipBlanks rest with
      | ',' :: rest => (items? fuel depth rest).map fun (xs, r) => (x :: xs, r)
      | ']' :: rest => some ([x], rest)
      | _ => none

/-- One or more members and the closing brace. -/
def members? : Nat → Nat → List Char → Option (List (String × Json) × List Char)
  | 0, _, _ => none
  | fuel + 1, depth, cs =>
    match skipBlanks cs with
    | '"' :: rest =>
      match stringBody? rest with
      | none => none
      | some (name, rest) =>
        match skipBlanks rest with
        | ':' :: rest =>
          match value? fuel depth rest with
          | none => none
          | some (x, rest) =>
            match skipBlanks rest with
            | ',' :: rest =>
              (members? fuel depth rest).map fun (ms, r) => ((String.ofList name, x) :: ms, r)
            | '\x7d' :: rest => some ([(String.ofList name, x)], rest)
            | _ => none
        | _ => none
    | _ => none

end

/-- The value of a text that holds exactly one. Every step takes a character or is followed by one
that does, so twice the length bounds the number of steps. -/
def parse? (s : String) : Option Json :=
  let cs := s.toList
  match value? (2 * cs.length + 2) 0 cs with
  | some (j, rest) => if skipBlanks rest = [] then some j else none
  | none => none

end FleetReconciler.Json
