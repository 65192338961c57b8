import FleetReconciler.Decimal.Digits
import FleetReconciler.Domain.Name
import FleetReconciler.Text.Percent
import FleetReconciler.Text.Split

/-!
# Hosts

A host is a name or an address. An address has one written form.

* `Host.name?` — a name in ASCII, or an address of four numbers where the last part is a number;
* `Host.bracketed?` — an address of eight groups.
-/

namespace FleetReconciler.Host

/-- The number of digits in a base; none if any other character occurs. No digits are zero. -/
def number? (base : Nat) (cs : List Char) : Option Nat :=
  cs.foldlM (fun n c => do
    let d ← Text.hexDigitValue? c
    if d < base then some (base * n + d) else none) 0

/-! ## Addresses of four numbers -/

/-- The number of a part: hexadecimal behind `0x`, octal behind `0`. -/
def quadPart? : List Char → Option Nat
  | [] => none
  | '0' :: 'x' :: rest => number? 16 rest
  | '0' :: 'X' :: rest => number? 16 rest
  | '0' :: c :: rest => number? 8 (c :: rest)
  | cs => number? 10 cs

/-- The parts without an empty one at the end. -/
def withoutEmptyEnd (ps : List (List Char)) : List (List Char) :=
  if ps.length > 1 && ps.getLast? = some [] then ps.dropLast else ps

/-- Whether a name ends in a number, so that it can only be an address. -/
def endsInNumber (cs : List Char) : Bool :=
  match (withoutEmptyEnd (Text.split '.' cs)).getLast? with
  | some [] | none => false
  | some p => p.all Decimal.isDigit || (p.take 2 = ['0', 'x'] && (number? 16 (p.drop 2)).isSome)

/-- The number of an address of one to four parts, the last of which fills what is left. -/
def quad? (cs : List Char) : Option Nat := do
  let ps := withoutEmptyEnd (Text.split '.' cs)
  if ps.length > 4 then none
  let ns ← ps.mapM quadPart?
  let before := ns.dropLast
  let last ← ns.getLast?
  let rest := Nat.pow 256 (5 - ns.length)
  if before.any (· > 255) || last ≥ rest then none
  return before.foldl (fun address n => 256 * address + n) 0 * rest + last

/-- The four numbers of an address. -/
def quadText (n : Nat) : List Char :=
  Text.join '.' ([0x1000000, 0x10000, 0x100, 1].map fun place => Decimal.digitsOf (n / place % 0x100))

/-! ## Addresses of eight groups -/

/-- A group of up to four hexadecimal digits. -/
def group? (cs : List Char) : Option Nat :=
  if cs = [] || cs.length > 4 then none else number? 16 cs

/-- One of the four numbers at the end of an address of groups: no leading zero, at most 255. -/
def byte? (cs : List Char) : Option Nat := do
  if cs = [] || cs.length > 3 || (cs.length > 1 && cs.head? = some '0') then none
  let n ← number? 10 cs
  if n > 255 then none else return n

/-- The groups between colons. Four numbers at the very end are two groups. -/
def groups? (mayEndInQuad : Bool) (cs : List Char) : Option (List Nat) :=
  if cs = [] then some [] else go (Text.split ':' cs)
where
  /-- The groups of parts. -/
  go : List (List Char) → Option (List Nat)
    | [] => some []
    | [p] =>
      if mayEndInQuad && p.contains '.' then do
        match ← (Text.split '.' p).mapM byte? with
        | [a, b, c, d] => return [256 * a + b, 256 * c + d]
        | _ => none
      else do return [← group? p]
    | p :: rest => do return (← group? p) :: (← go rest)

/-- The text before and behind the first two colons in a row. -/
def splitDouble : List Char → Option (List Char × List Char)
  | ':' :: ':' :: rest => some ([], rest)
  | c :: rest => (splitDouble rest).map fun (a, b) => (c :: a, b)
  | [] => none

/-- The eight groups of an address. -/
def address? (cs : List Char) : Option (List Nat) := do
  match splitDouble cs with
  | none =>
    let gs ← groups? true cs
    if gs.length = 8 then return gs else none
  | some (a, b) =>
    let left ← groups? false a
    let right ← groups? true b
    let missing := 8 - (left.length + right.length)
    if missing = 0 then none
    return left ++ List.replicate missing 0 ++ right

/-- The length of the run of zeros at the start. -/
def zeroRun (gs : List Nat) : Nat := (gs.takeWhile (· = 0)).length

/-- The place and length of the longest run of zeros, the first of several. -/
def longestZeros (place : Nat) (best : Nat × Nat) : List Nat → Nat × Nat
  | [] => best
  | g :: rest =>
    let run := zeroRun (g :: rest)
    longestZeros (place + 1) (if run > best.2 then (place, run) else best) rest

/-- The hexadecimal text of groups. -/
def groupsText (gs : List Nat) : List Char := Text.join ':' (gs.map Text.hexDigits)

/-- The written form of an address: its longest run of at least two zeros is left out. -/
def addressText (gs : List Nat) : List Char :=
  let (place, run) := longestZeros 0 (0, 1) gs
  if run < 2 then groupsText gs
  else groupsText (gs.take place) ++ [':', ':'] ++ groupsText (gs.drop (place + run))

/-- An address in brackets, without its opening bracket. -/
def bracketed? (cs : List Char) : Option String := do
  if cs.getLast? ≠ some ']' then none
  let gs ← address? cs.dropLast
  return String.ofList ('[' :: addressText gs ++ [']'])

/-! ## Names -/

/-- The signs of ASCII that cannot stand in a host of any kind. -/
def delimiters : List Char := ['#', '/', ':', '<', '>', '?', '@', '[', '\\', ']', '^', '|']

/-- Whether a character cannot stand in a name. Only ASCII can. -/
def isForbidden (c : Char) : Bool :=
  c.toNat ≤ 0x20 || c.toNat ≥ 0x7F || c = '%' || delimiters.contains c

/-- A host that is a name or an address of four numbers. -/
def name? (cs : List Char) : Option String := do
  let decoded ← String.fromUTF8? (Text.percentDecoded .empty cs)
  let name ← Domain.ofChars? decoded.toList
  if name = [] || name.any isForbidden then none
  if endsInNumber name then
    let n ← quad? name
    if n < Nat.pow 2 32 then return String.ofList (quadText n) else none
  else return String.ofList name

/-- A host of a scheme without rules of its own: characters that cannot stand there are written as
bytes. -/
def opaqueName? (cs : List Char) : Option String :=
  if cs.any fun c => c = '\x00' || c = ' ' || delimiters.contains c then none
  else some (String.ofList (Text.percentEncoded (fun c => 0x20 ≤ c.toNat && c.toNat < 0x7F) cs))

/-- A host of a URL. -/
def ofChars? (special : Bool) (cs : List Char) : Option String :=
  match cs with
  | '[' :: rest => bracketed? rest
  | cs => if special then name? cs else opaqueName? cs

end FleetReconciler.Host
