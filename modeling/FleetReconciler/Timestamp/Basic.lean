/-!
# Dates and timestamps

A timestamp is a date of the proleptic Gregorian calendar, a second of the day and a part of a
second, all in universal time. The part is counted in nanoseconds; from `10 ^ 9` on it lies in a
leap second, which follows the last second of a minute.

* `Date.ofParts?`, `Date.next?`, `Date.previous?` — a date from its numbers, and its neighbours;
* `Timestamp.ofParts?` — a timestamp from its numbers;
* `Timestamp.ofClock?` — the timestamp that a clock shows;
* `Timestamp.shift?` — the timestamp with a number of seconds added, less than a day.
-/

namespace FleetReconciler

/-- Whether a year has a 29th of February. -/
def isLeapYear (year : Int) : Bool :=
  year % 4 = 0 && (year % 100 ≠ 0 || year % 400 = 0)

/-- The number of days of a month. -/
def daysInMonth (year : Int) (month : Nat) : Nat :=
  match month with
  | 2 => if isLeapYear year then 29 else 28
  | 4 | 6 | 9 | 11 => 30
  | _ => 31

/-- The first year of the calendar. -/
def firstYear : Int := -262143

/-- The last year of the calendar. -/
def lastYear : Int := 262142

/-- Whether three numbers are the year, month and day of a date. -/
def IsDate (year : Int) (month day : Nat) : Prop :=
  firstYear ≤ year ∧ year ≤ lastYear ∧ 1 ≤ month ∧ month ≤ 12 ∧ 1 ≤ day ∧
    day ≤ daysInMonth year month

instance (year : Int) (month day : Nat) : Decidable (IsDate year month day) := by
  unfold IsDate; infer_instance

/-- A day of the calendar. -/
structure Date where
  year : Int
  month : Nat
  day : Nat
  isDate : IsDate year month day
  deriving DecidableEq

namespace Date

/-- The date of three numbers. -/
def ofParts? (year : Int) (month day : Nat) : Option Date :=
  if h : IsDate year month day then some ⟨year, month, day, h⟩ else none

/-- The day after. -/
def next? (d : Date) : Option Date :=
  if d.day < daysInMonth d.year d.month then ofParts? d.year d.month (d.day + 1)
  else if d.month < 12 then ofParts? d.year (d.month + 1) 1
  else ofParts? (d.year + 1) 1 1

/-- The date so many days later. -/
def later? : Nat → Date → Option Date
  | 0, d => some d
  | days + 1, d => d.next?.bind (later? days)

/-- The day before. -/
def previous? (d : Date) : Option Date :=
  if 1 < d.day then ofParts? d.year d.month (d.day - 1)
  else if 1 < d.month then
    ofParts? d.year (d.month - 1) (daysInMonth d.year (d.month - 1))
  else ofParts? (d.year - 1) 12 31

end Date

/-- The number of seconds of a day. -/
def secondsPerDay : Nat := 86400

/-- The number of nanoseconds of a second. -/
def nanosPerSecond : Nat := 1000000000

/-- Whether two numbers are a second of a day and the part of a second, a leap second standing only
behind the last second of a minute. -/
def IsTimeOfDay (second nano : Nat) : Prop :=
  second < secondsPerDay ∧ nano < 2 * nanosPerSecond ∧
    (nanosPerSecond ≤ nano → second % 60 = 59)

instance (second nano : Nat) : Decidable (IsTimeOfDay second nano) := by
  unfold IsTimeOfDay; infer_instance

/-- A moment in universal time. -/
structure Timestamp where
  date : Date
  second : Nat
  nano : Nat
  isTime : IsTimeOfDay second nano
  deriving DecidableEq

namespace Timestamp

/-- The timestamp of a date, a second of the day and a part of a second. -/
def ofParts? (date : Date) (second nano : Nat) : Option Timestamp :=
  if h : IsTimeOfDay second nano then some ⟨date, second, nano, h⟩ else none

/-- The day from which clocks count. -/
def epoch : Date := ⟨1970, 1, 1, by decide⟩

/-- The timestamp of a clock that shows so many nanoseconds since the start of 1970. -/
def ofClock? (nanos : Nat) : Option Timestamp := do
  let seconds := nanos / nanosPerSecond
  let date ← epoch.later? (seconds / secondsPerDay)
  ofParts? date (seconds % secondsPerDay) (nanos % nanosPerSecond)

/-- The timestamp `seconds` later (earlier if negative), for less than a day. -/
def shift? (t : Timestamp) (seconds : Int) : Option Timestamp :=
  let moved : Int := t.second + seconds
  if moved < 0 then do
    ofParts? (← t.date.previous?) (moved + secondsPerDay).toNat t.nano
  else if moved < secondsPerDay then
    ofParts? t.date moved.toNat t.nano
  else do
    ofParts? (← t.date.next?) (moved - secondsPerDay).toNat t.nano

end Timestamp

end FleetReconciler
