import FleetReconciler.Timestamp.Basic
import FleetReconciler.Decimal.Digits

/-!
# Timestamps as text

A timestamp is written as `2024-01-01T12:00:00` and, if it has a part of a second, a point and
three, six or nine digits: the fewest that are exact. Years outside 0 to 9999 carry a sign. A record
writes `Z` behind it (`zuluText`), a message `+00:00` (`offsetText`).
-/

namespace FleetReconciler.Timestamp

open Decimal

/-- A year: four digits, or a sign and at least four digits outside of 0 to 9999. -/
def yearText (year : Int) : List Char :=
  if 0 ≤ year ∧ year ≤ 9999 then padded 4 year.toNat
  else (if year < 0 then '-' else '+') :: padded 4 year.natAbs

/-- The part of a second with its point, in the fewest of three, six or nine digits. -/
def fractionText (nano : Nat) : List Char :=
  if nano = 0 then []
  else if nano % 1000000 = 0 then '.' :: padded 3 (nano / 1000000)
  else if nano % 1000 = 0 then '.' :: padded 6 (nano / 1000)
  else '.' :: padded 9 nano

/-- Date and time without a mark for the zone. A leap second is second 60. -/
def localText (t : Timestamp) : List Char :=
  let leap := nanosPerSecond ≤ t.nano
  let second := t.second % 60 + (if leap then 1 else 0)
  let nano := if leap then t.nano - nanosPerSecond else t.nano
  yearText t.date.year ++ '-' :: padded 2 t.date.month ++ '-' :: padded 2 t.date.day ++
    'T' :: padded 2 (t.second / 3600) ++ ':' :: padded 2 (t.second / 60 % 60) ++
    ':' :: padded 2 second ++ fractionText nano

/-- The text of a timestamp in a record. -/
def zuluText (t : Timestamp) : String := String.ofList (localText t ++ ['Z'])

/-- The text of a timestamp in a message. -/
def offsetText (t : Timestamp) : String := String.ofList (localText t ++ "+00:00".toList)

instance : Repr Timestamp := ⟨fun t _ => t.zuluText⟩

end FleetReconciler.Timestamp
