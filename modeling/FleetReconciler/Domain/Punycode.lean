import FleetReconciler.Text.Percent

/-!
# Punycode

A text in ASCII for any text: its characters of ASCII, a hyphen, and numbers that say where which
other characters go. The numbers count the steps from one insertion to the next, over all places and
all code points in ascending order. They are written with digits of base 36 whose range depends on
how large the numbers were so far.

* `Punycode.encoded` — the text in ASCII;
* `Punycode.decoded?` — the text of a text in ASCII.
-/

namespace FleetReconciler.Domain.Punycode

/-! ## Digits -/

/-- The number of digits. -/
def base : Nat := 36

/-- The digit of a value. -/
def digit (n : Nat) : Char := if n < 26 then Char.ofNat (97 + n) else Char.ofNat (22 + n)

/-- The value of a digit. -/
def digitValue? (c : Char) : Option Nat :=
  if 'a' ≤ c ∧ c ≤ 'z' then some (c.toNat - 97)
  else if '0' ≤ c ∧ c ≤ '9' then some (c.toNat - 22)
  else none

/-- The digits from this on say that another digit follows; `k` grows by `base` with the place. -/
def threshold (k bias : Nat) : Nat := Nat.max 1 (Nat.min 26 (k - bias))

/-- Divides until a number is small, and counts the divisions in steps of `base`. -/
def shrink : (fuel : Nat) → (k n : Nat) → Nat × Nat
  | 0, k, n => (k, n)
  | fuel + 1, k, n => if n > 455 then shrink fuel (k + base) (n / 35) else (k, n)

/-- The bias for the number that follows `delta`. The text has `length` characters after it. -/
def adapted (delta length : Nat) (isFirst : Bool) : Nat :=
  let n := delta / if isFirst then 700 else 2
  let n := n + n / length
  let (k, n) := shrink n 0 n
  k + base * n / (n + 38)

/-- The bias for the first number. -/
def firstBias : Nat := 72

/-- The first code point that is not ASCII. -/
def firstCode : Nat := 0x80

/-! ## Writing -/

/-- The digits of a number. -/
def digits (bias : Nat) : (fuel : Nat) → (k q : Nat) → List Char
  | 0, _, q => [digit q]
  | fuel + 1, k, q =>
    let t := threshold k bias
    if q < t then [digit q]
    else digit (t + (q - t) % (base - t)) :: digits bias fuel (k + base) ((q - t) / (base - t))

/-- What has been written so far. -/
structure Writer where
  /-- The steps since the last insertion. -/
  delta : Nat
  bias : Nat
  /-- How many characters are written. -/
  count : Nat
  isFirst : Bool
  written : List Char

/-- Writes the places of one code point in a text, in which smaller ones are written already. -/
def writeCode (code : Nat) (w : Writer) (cs : List Char) : Writer :=
  cs.foldl (fun w c =>
    if c.toNat < code then { w with delta := w.delta + 1 }
    else if c.toNat = code then
      { delta := 0
        bias := adapted w.delta (w.count + 1) w.isFirst
        count := w.count + 1
        isFirst := false
        written := w.written ++ digits w.bias w.delta base w.delta }
    else w) w

/-- Puts a code point among ascending ones, if it is not there. -/
def insertCode (n : Nat) : List Nat → List Nat
  | [] => [n]
  | m :: rest =>
    if n < m then n :: m :: rest
    else if n = m then m :: rest
    else m :: insertCode n rest

/-- The code points beyond ASCII of a text, ascending and each only once. -/
def codes (cs : List Char) : List Nat :=
  ((cs.map Char.toNat).filter (· ≥ firstCode)).foldr insertCode []

/-- The text in ASCII for a text. -/
def encoded (cs : List Char) : List Char :=
  let plain := cs.filter fun c => c.toNat < firstCode
  let start : Writer :=
    { delta := 0, bias := firstBias, count := plain.length, isFirst := true
      written := if plain = [] then [] else plain ++ ['-'] }
  let step (s : Nat × Writer) (code : Nat) : Nat × Writer :=
    let skipped := (code - s.1) * (s.2.count + 1)
    let w := writeCode code { s.2 with delta := s.2.delta + skipped } cs
    (code + 1, { w with delta := w.delta + 1 })
  ((codes cs).foldl step (firstCode, start)).2.written

/-! ## Reading -/

/-- What has been read so far. -/
structure Reader where
  /-- The code point of the next insertion. -/
  code : Nat
  /-- Its place, with the steps of the digits so far. -/
  place : Nat
  /-- The place before the first digit of this number, 0 only for the first. -/
  start : Nat
  bias : Nat
  /-- What the next digit counts, and `k` for it. -/
  weight : Nat
  k : Nat
  text : List Char

/-- Inserts the characters that digits describe. -/
def inserted? (r : Reader) : List Char → Option (List Char)
  | [] => if r.k = base then some r.text else none
  | c :: rest => do
    let d ← digitValue? c
    let place := r.place + d * r.weight
    let t := threshold r.k r.bias
    if d < t then
      let length := r.text.length + 1
      let code := r.code + place / length
      if ¬ code.isValidChar then none
      let here := place % length
      inserted?
        { code, place := here + 1, start := here + 1
          bias := adapted (place - r.start) length (r.start = 0)
          weight := 1, k := base
          text := r.text.insertIdx here (Char.ofNat code) } rest
    else inserted? { r with place, weight := r.weight * (base - t), k := r.k + base } rest

/-- The text of a text in ASCII with small letters. -/
def decoded? (cs : List Char) : Option (List Char) :=
  let numbers := (cs.reverse.takeWhile (· ≠ '-')).reverse
  let plain := (cs.take (cs.length - numbers.length)).dropLast
  let start : Reader :=
    { code := firstCode, place := 0, start := 0, bias := firstBias, weight := 1, k := base
      text := plain }
  if plain = [] then inserted? start cs else inserted? start numbers

end FleetReconciler.Domain.Punycode
