import FleetReconciler.Decimal.Digits

/-!
# What plain scalars say

A plain scalar may say more than its characters: nothing, a truth value, or a number. Digits behind
a leading zero are no number.

* `isNull`, `isBoolean`, `unsigned?`, `isNumber` — what a plain scalar says;
* `saysMore` — whether it says anything but its characters.
-/

namespace FleetReconciler.Yaml

/-- Whether a text stands for nothing. -/
def isNull (s : String) : Bool := ["null", "Null", "NULL", "~"].contains s

/-- Whether a text is a truth value. -/
def isBoolean (s : String) : Bool := ["true", "True", "TRUE", "false", "False", "FALSE"].contains s

/-- A text without a given start. -/
def without? : (start cs : List Char) → Option (List Char)
  | [], cs => some cs
  | c :: start, d :: cs => if c = d then without? start cs else none
  | _ :: _, [] => none

/-- Whether a text starts with a sign. -/
def startsWithSign (cs : List Char) : Bool :=
  cs.head? = some '+' || cs.head? = some '-'

/-- The value of a digit in a base of at most sixteen. -/
def digitIn? (base : Nat) (c : Char) : Option Nat :=
  let d :=
    if '0' ≤ c ∧ c ≤ '9' then c.toNat - 48
    else if 'a' ≤ c ∧ c ≤ 'f' then c.toNat - 87
    else if 'A' ≤ c ∧ c ≤ 'F' then c.toNat - 55
    else base
  if d < base then some d else none

/-- The number of some digits in a base; none if there is no digit or any other character. -/
def digitsIn? (base : Nat) (cs : List Char) : Option Nat := do
  if cs = [] then none
  return (← cs.mapM (digitIn? base)).foldl (fun n d => base * n + d) 0

/-- The bases of numbers with their marks. -/
def bases : List (String × Nat) := [("0x", 16), ("0o", 8), ("0b", 2)]

/-- The number of digits behind the mark of their base. -/
def markedNumber? (cs : List Char) : Option Nat :=
  bases.findSome? fun (mark, base) => do digitsIn? base (← without? mark.toList cs)

/-- Whether a text is one of digits behind a leading zero, a sign aside. -/
def isPaddedDigits (cs : List Char) : Bool :=
  match if startsWithSign cs then cs.drop 1 else cs with
  | '0' :: c :: rest => (c :: rest).all Decimal.isDigit
  | _ => false

/-- The natural number that a text stands for, if it is at most `max`. -/
def unsigned? (max : Nat) (s : String) : Option Nat := do
  let cs := s.toList
  let bare := (without? ['+'] cs).getD cs
  if startsWithSign bare then none
  let inRange (n : Nat) : Option Nat := if n ≤ max then some n else none
  match (markedNumber? bare).bind inRange with
  | some n => return n
  | none =>
    if isPaddedDigits cs then none
    inRange (← digitsIn? 10 bare)

/-- Whether a text is a negative integer of at most `max` below zero. -/
def isNegativeInteger (max : Nat) (s : String) : Bool :=
  match s.toList with
  | '-' :: rest =>
    let inRange (n : Nat) : Bool := n ≤ max
    (markedNumber? rest).any inRange ||
      (!isPaddedDigits rest && (digitsIn? 10 rest).any inRange)
  | _ => false

/-! ## Fractions -/

/-- The parts of a decimal number without a sign: the digits before and behind the point, and the
exponent. -/
structure DecimalParts where
  whole : List Char
  fraction : List Char
  exponent : Int

/-- Reads an exponent behind its letter. -/
def exponent? (cs : List Char) : Option Int :=
  match cs with
  | '-' :: ds => (Decimal.natOf? ds).map fun n => -(n : Int)
  | '+' :: ds => (Decimal.natOf? ds).map Int.ofNat
  | ds => (Decimal.natOf? ds).map Int.ofNat

/-- Reads a decimal number without a sign. It has a digit before or behind its point. -/
def DecimalParts.read? (cs : List Char) : Option DecimalParts := do
  let (whole, rest) := Decimal.takeDigits cs
  let (fraction, rest) := match rest with
    | '.' :: rest => Decimal.takeDigits rest
    | rest => ([], rest)
  if whole = [] && fraction = [] then none
  match rest with
  | [] => return ⟨whole, fraction, 0⟩
  | e :: ds => if e = 'e' || e = 'E' then return ⟨whole, fraction, ← exponent? ds⟩ else none

/-- The smallest number that does not round to a finite double. -/
def doubleLimit : Nat := Nat.pow 2 1024 - Nat.pow 2 970

/-- Whether a decimal number rounds to a finite double. The comparison is exact; numbers with far
too many digits before the point are told by their count. -/
def DecimalParts.isFinite (p : DecimalParts) : Bool :=
  let digits := (p.whole ++ p.fraction).dropWhile (· = '0')
  let scale : Int := p.exponent - p.fraction.length
  if digits = [] then true
  else if (digits.length : Int) + scale > 400 then false
  else if (digits.length : Int) + scale < 0 then true
  else
    let n := Decimal.valueOf digits
    if 0 ≤ scale then n * Nat.pow 10 scale.toNat < doubleLimit
    else n < doubleLimit * Nat.pow 10 (-scale).toNat

/-- Whether a text is a fraction, an infinity, or no number at all. -/
def isFraction (s : String) : Bool :=
  let cs := s.toList
  let bare := (without? ['+'] cs).getD cs
  if (without? ['+'] cs).isSome && startsWithSign bare then false
  else if [".inf", ".Inf", ".INF"].contains (String.ofList bare) then true
  else if ["-.inf", "-.Inf", "-.INF", ".nan", ".NaN", ".NAN"].contains s then true
  else
    let unsigned := (without? ['-'] bare).getD bare
    (DecimalParts.read? unsigned).any DecimalParts.isFinite

/-! ## In all -/

/-- Whether a text is a number. -/
def isNumber (s : String) : Bool :=
  (unsigned? (Nat.pow 2 128 - 1) s).isSome || isNegativeInteger (Nat.pow 2 127) s || isFraction s

/-- Whether a plain scalar of these characters would say anything but them. -/
def saysMore (s : String) : Bool :=
  s = "" || isNull s || isBoolean s || isNumber s || isPaddedDigits s.toList

end FleetReconciler.Yaml
