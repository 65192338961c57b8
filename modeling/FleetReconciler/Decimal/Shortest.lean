import FleetReconciler.Decimal.Digits

/-!
# Shortest decimal of a binary floating-point number

A finite positive double is `m · 2 ^ q`. The reals that round to it form an interval around it,
whose ends belong to it exactly when `m` is even. `shortest` finds the decimal with the fewest
digits in that interval, and of several the one nearest to the number; a tie goes to the even digit.
-/

namespace FleetReconciler.Decimal

/-- The parts of a double: sign, biased exponent, fraction. -/
structure DoubleParts where
  negative : Bool
  exponent : Nat
  fraction : Nat
  deriving DecidableEq, Repr

/-- Splits the 64 bits of a double. -/
def DoubleParts.ofBits (bits : UInt64) : DoubleParts :=
  let n := bits.toNat
  ⟨n / Nat.pow 2 63 = 1, n / Nat.pow 2 52 % Nat.pow 2 11, n % Nat.pow 2 52⟩

/-- The integer significand of a finite double. -/
def DoubleParts.significand (p : DoubleParts) : Nat :=
  if p.exponent = 0 then p.fraction else Nat.pow 2 52 + p.fraction

/-- The power of two that scales the significand of a finite double. -/
def DoubleParts.scale (p : DoubleParts) : Int :=
  if p.exponent = 0 then -1074 else (p.exponent : Int) - 1075

/-- A decimal `digits · 10 ^ exponent`. -/
structure Scientific where
  digits : Nat
  exponent : Int
  deriving DecidableEq, Repr

/-- The interval of the reals that round to a double, over the common scale `2 ^ scale`: the number
itself, its lower and its upper end, and whether the ends belong to it. -/
structure RoundingInterval where
  value : Nat
  lower : Nat
  upper : Nat
  scale : Int
  closed : Bool

/-- The rounding interval of `m · 2 ^ q`. Below a power of two the spacing is half as wide. -/
def RoundingInterval.ofDouble (m : Nat) (q : Int) : RoundingInterval :=
  let narrow := m = Nat.pow 2 52 ∧ q > -1074
  ⟨4 * m, if narrow then 4 * m - 1 else 4 * m - 2, 4 * m + 2, q - 2, m % 2 = 0⟩

/-- The decimal on the grid of `10 ^ e` that lies in the interval and is nearest to its value. -/
def RoundingInterval.hit? (i : RoundingInterval) (e : Int) : Option Nat :=
  let a := Nat.pow 2 i.scale.toNat * Nat.pow 10 (-e).toNat
  let b := Nat.pow 2 (-i.scale).toNat * Nat.pow 10 e.toNat
  let inside (d : Nat) : Bool :=
    if i.closed then i.lower * a ≤ d * b && d * b ≤ i.upper * a
    else i.lower * a < d * b && d * b < i.upper * a
  let low := i.value * a / b
  let high := low + 1
  match low ≠ 0 && inside low, inside high with
  | true, true =>
    let below := i.value * a - low * b
    let above := high * b - i.value * a
    if below < above then some low
    else if above < below then some high
    else if low % 2 = 0 then some low else some high
  | true, false => some low
  | false, true => some high
  | false, false => none

/-- Tries the grids `10 ^ e`, `10 ^ (e - 1)`, … until one has a hit. -/
def RoundingInterval.search (i : RoundingInterval) : Nat → Int → Scientific
  | 0, e => ⟨0, e⟩
  | fuel + 1, e =>
    match i.hit? e with
    | some d => ⟨d, e⟩
    | none => i.search fuel (e - 1)

/-- The shortest decimal that reads back as `m · 2 ^ q`, for `0 < m`. -/
def shortest (m : Nat) (q : Int) : Scientific :=
  let bits : Int := (Nat.log2 m : Int) + q + 1
  (RoundingInterval.ofDouble m q).search 24 (Int.fdiv (bits * 30103) 100000 + 1)

end FleetReconciler.Decimal
