import FleetReconciler.Timestamp.Basic
import FleetReconciler.Decimal.Digits
import FleetReconciler.Text.Blank

/-!
# Reading timestamps

A timestamp is a date, one of `T`, `t` and a space, a time and an offset. Numbers may be shorter
than usual, blanks may stand before numbers and separators, a year with a sign may have any number
of digits, digits of the fraction after the ninth are dropped, and the offset is `Z`, `UTC` in any
case, or a sign with hours and minutes between which colons and blanks may stand.

`Timestamp.parse` reads a text from left to right and reports the first fault.
-/

namespace FleetReconciler

/-- Why a text is no timestamp. -/
inductive TimestampError where
  /-- A number is outside its range, or there is no such day. -/
  | outOfRange
  /-- The local time with its offset lies outside of the calendar. -/
  | impossible
  /-- A character cannot stand where it stands. -/
  | invalid
  /-- The text ends too early. -/
  | tooShort
  /-- Something follows the offset. -/
  | tooLong
  deriving DecidableEq, Repr

/-- The wording of a timestamp error. -/
def TimestampError.message : TimestampError → String
  | .outOfRange => "input is out of range"
  | .impossible => "no possible date and time matching input"
  | .invalid => "input contains invalid characters"
  | .tooShort => "premature end of input"
  | .tooLong => "trailing input"

namespace Timestamp

open Decimal Text

/-- A step of the reader: it takes characters from the front. -/
abbrev Step (α : Type) := List Char → Except TimestampError (α × List Char)

/-- The greatest number that a run of digits may denote. -/
def maxNumber : Nat := Nat.pow 2 63 - 1

/-- One to `width` digits; without a width, all that follow. -/
def number (width : Option Nat) : Step Nat := fun cs =>
  let window := match width with
    | some w => cs.take w
    | none => cs
  let ds := window.takeWhile isDigit
  if cs.isEmpty then .error .tooShort
  else if ds.isEmpty then .error .invalid
  else if valueOf ds > maxNumber then .error .outOfRange
  else .ok (valueOf ds, cs.drop ds.length)

/-- One to two digits behind blanks, for a number between `lo` and `hi`. -/
def bounded (lo hi : Nat) : Step Nat := fun cs => do
  let (n, rest) ← number (some 2) (cs.dropWhile isBlank)
  if lo ≤ n ∧ n ≤ hi then return (n, rest) else throw .outOfRange

/-- The year behind blanks: four digits at most without a sign, any number with one. -/
def yearNumber : Step Int := fun cs => do
  let (year, rest) ←
    match cs.dropWhile isBlank with
    | '-' :: rest => do
      let (n, rest) ← number none rest
      pure (-(n : Int), rest)
    | '+' :: rest => do
      let (n, rest) ← number none rest
      pure ((n : Int), rest)
    | rest => do
      let (n, rest) ← number (some 4) rest
      pure ((n : Int), rest)
  let limit : Int := Nat.pow 2 31
  if -limit ≤ year ∧ year < limit then return (year, rest) else throw .outOfRange

/-- A separator behind blanks. -/
def separator (c : Char) : Step Unit := fun cs =>
  match cs.dropWhile isBlank with
  | [] => .error .tooShort
  | d :: rest => if d = c then .ok ((), rest) else .error .invalid

/-- The part of a second, if a point is next; the ninth digit is the last that counts. -/
def fraction : Step Nat
  | '.' :: cs => do
    let (n, rest) ← number (some 9) cs
    let taken := cs.length - rest.length
    return (n * Nat.pow 10 (9 - taken), rest.dropWhile isDigit)
  | cs => .ok (0, cs)

/-- Two digits, of which the first is at most `first`. -/
def twoDigits (first : Char) : Step Nat
  | [] => .error .tooShort
  | [c] => if c.toNat < 0x80 then .error .tooShort else .error .invalid
  | a :: b :: rest =>
    if isDigit a && isDigit b then
      if a ≤ first then .ok (10 * digitValue a + digitValue b, rest) else .error .outOfRange
    else .error .invalid

/-- The offset of the local time in seconds. -/
def offset : Step Int := fun cs =>
  match cs with
  | 'Z' :: rest | 'z' :: rest => .ok (0, rest)
  | cs => do
    let (negative, rest) ←
      match cs with
      | [] => throw .tooShort
      | '+' :: rest => pure (false, rest)
      | '-' :: rest => pure (true, rest)
      | '−' :: rest => pure (true, rest)
      | _ => throw .invalid
    let (hours, rest) ← twoDigits '9' rest
    let (minutes, rest) ← twoDigits '5' (rest.dropWhile fun c => c = ':' || isBlank c)
    let seconds : Int := hours * 3600 + minutes * 60
    return (if negative then -seconds else seconds, rest)

/-- Whether a text starts with `UTC`, in upper or lower case. -/
def startsWithUtc : List Char → Bool
  | u :: t :: c :: _ => u.toUpper = 'U' && t.toUpper = 'T' && c.toUpper = 'C'
  | _ => false

/-- `UTC` or an offset, behind blanks. -/
def zone : Step Int := fun cs =>
  let cs := cs.dropWhile isBlank
  if startsWithUtc cs then .ok (0, cs.drop 3) else offset cs

/-- The letter or the blank between date and time. -/
def dateEnd : Step Unit
  | [] => .error .tooShort
  | c :: rest => if c = 'T' ∨ c = 't' ∨ c = ' ' then .ok ((), rest) else .error .invalid

/-- The timestamp of a local time whose numbers are in range. -/
def ofLocal (year : Int) (month day hour minute second nano : Nat) (offset : Int) :
    Except TimestampError Timestamp := do
  let some date := Date.ofParts? year month day | throw .outOfRange
  let (second, nano) := if second = 60 then (59, nano + nanosPerSecond) else (second, nano)
  let some wall := ofParts? date (hour * 3600 + minute * 60 + second) nano | throw .outOfRange
  if offset.natAbs ≥ secondsPerDay then throw .outOfRange
  let some t := wall.shift? (-offset) | throw .impossible
  return t

/-- The timestamp of a text. -/
def parse (s : String) : Except TimestampError Timestamp := do
  let (year, cs) ← yearNumber s.toList
  let ((), cs) ← separator '-' cs
  let (month, cs) ← bounded 1 12 cs
  let ((), cs) ← separator '-' cs
  let (day, cs) ← bounded 1 31 cs
  let ((), cs) ← dateEnd cs
  let (hour, cs) ← bounded 0 23 cs
  let ((), cs) ← separator ':' cs
  let (minute, cs) ← bounded 0 59 cs
  let ((), cs) ← separator ':' cs
  let (second, cs) ← bounded 0 60 cs
  let (nano, cs) ← fraction cs
  let (offset, cs) ← zone cs
  if cs.all isBlank then ofLocal year month day hour minute second nano offset
  else throw .tooLong

end Timestamp

end FleetReconciler
