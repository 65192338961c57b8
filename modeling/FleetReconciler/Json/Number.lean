import FleetReconciler.Json.Basic
import FleetReconciler.Decimal.Shortest

/-!
# JSON numbers as text

An integer is written in decimal. A double is written with the fewest digits that read back: in
positional notation with at least one digit after the point where the decimal point falls within
the first sixteen places or at most four zeros follow it, else with a signed exponent.

`Json.Number.ofParts?` is the value of a number that is read: its digits as a 64-bit significand,
multiplied or divided once by a power of ten, each step rounded to the nearest double.
-/

namespace FleetReconciler.Json.Number

open Decimal

/-- Where positional notation of a double begins and ends: the largest place of the decimal point
counted from the first digit, and the largest number of zeros after the point. -/
structure FloatLayout where
  lastPlace : Int
  leadingZeros : Int

/-- Doubles are positional below `10 ^ 16` and from `10 ^ -5` on. -/
def layout : FloatLayout := ⟨16, 4⟩

/-- The text of an exponent. It always has a sign. -/
def exponentText (e : Int) : List Char :=
  if 0 ≤ e then '+' :: (intText e).toList else (intText e).toList

/-- The text of a positive decimal in the given notation. -/
def scientificText (l : FloatLayout) (s : Scientific) : List Char :=
  let ds := digitsOf s.digits
  let point : Int := ds.length + s.exponent
  if 0 ≤ s.exponent ∧ point ≤ l.lastPlace then
    ds ++ List.replicate s.exponent.toNat '0' ++ ['.', '0']
  else if 0 < point ∧ point ≤ l.lastPlace then
    ds.take point.toNat ++ '.' :: ds.drop point.toNat
  else if -l.leadingZeros ≤ point ∧ point ≤ 0 then
    '0' :: '.' :: (List.replicate (-point).toNat '0' ++ ds)
  else
    let mantissa :=
      match ds with
      | [d] => [d]
      | d :: rest => d :: '.' :: rest
      | [] => []
    mantissa ++ 'e' :: exponentText (point - 1)

/-- The text of a finite double, given by its bits. -/
def floatText (bits : UInt64) : List Char :=
  let p := DoubleParts.ofBits bits
  let magnitude :=
    if p.significand = 0 then ['0', '.', '0']
    else scientificText layout (shortest p.significand p.scale)
  if p.negative then '-' :: magnitude else magnitude

/-- The text of a number. -/
def text : Number → List Char
  | .int i => (intText i).toList
  | .float bits => floatText bits

/-! ## Values of texts -/

/-- Multiplies by `10 ^ exponent` in steps of at most `10 ^ 308`; none if the result is infinite. -/
def scaled? (f : Float) (exponent : Int) : Nat → Option Float
  | 0 => some f
  | fuel + 1 =>
    if exponent.natAbs ≤ 308 then
      let power := Float.ofScientific 1 false exponent.natAbs
      if 0 ≤ exponent then
        let g := f * power
        if g.isInf then none else some g
      else some (f / power)
    else if f == 0.0 then some f
    else if 0 ≤ exponent then none
    else scaled? (f / Float.ofScientific 1 false 308) (exponent + 308) fuel

/-- The double with the given sign, 64-bit significand and power of ten. -/
def ofParts? (negative : Bool) (significand : UInt64) (exponent : Int) : Option Number :=
  (scaled? significand.toFloat exponent (exponent.natAbs / 308 + 2)).map fun f =>
    .float (if negative then -f else f).toBits

end FleetReconciler.Json.Number
