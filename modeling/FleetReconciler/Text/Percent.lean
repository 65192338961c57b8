import FleetReconciler.Text.Quoted

/-!
# Percent-encoding

A character that may not stand as it is is written as the bytes of its UTF-8 form, each with a
percent sign and two hexadecimal digits.

* `percentEncoded` — for a given set of characters that stand as they are;
* `formEncoded` — as in the query of a form, where a plus sign stands for a space;
* `percentDecoded` — back to bytes.
-/

namespace FleetReconciler.Text

/-- A byte with a percent sign. -/
def percentByte (b : UInt8) : List Char :=
  '%' :: (hexPadded 2 b.toNat).map Char.toUpper

/-- The bytes of a character with percent signs. -/
def percentChar (c : Char) : List Char :=
  (String.singleton c).toUTF8.toList.flatMap percentByte

/-- Writes every character as it is that satisfies `keep`, and all others as bytes. -/
def percentEncoded (keep : Char → Bool) (cs : List Char) : List Char :=
  cs.flatMap fun c => if keep c then [c] else percentChar c

/-- Whether a character is a letter or a digit of ASCII. -/
def isAlphanumeric (c : Char) : Bool :=
  ('0' ≤ c && c ≤ '9') || ('a' ≤ c && c ≤ 'z') || ('A' ≤ c && c ≤ 'Z')

/-- A text as a name or a value in the query of a form. -/
def formEncoded (s : String) : String :=
  let keep (c : Char) : Bool := isAlphanumeric c || ['*', '-', '.', '_'].contains c
  String.ofList (s.toList.flatMap fun c =>
    if c = ' ' then ['+'] else if keep c then [c] else percentChar c)

/-- The value of a hexadecimal digit. -/
def hexDigitValue? (c : Char) : Option Nat :=
  if '0' ≤ c ∧ c ≤ '9' then some (c.toNat - 48)
  else if 'a' ≤ c ∧ c ≤ 'f' then some (c.toNat - 87)
  else if 'A' ≤ c ∧ c ≤ 'F' then some (c.toNat - 55)
  else none

/-- The bytes of a text in which bytes may be written with percent signs. A percent sign without two
digits stands for itself. -/
def percentDecoded (done : ByteArray) : List Char → ByteArray
  | [] => done
  | '%' :: a :: b :: rest =>
    match hexDigitValue? a, hexDigitValue? b with
    | some hi, some lo => percentDecoded (done.push (16 * hi + lo).toUInt8) rest
    | _, _ => percentDecoded (done.push 37) (a :: b :: rest)
  | c :: rest => percentDecoded (done ++ (String.singleton c).toUTF8) rest

end FleetReconciler.Text
