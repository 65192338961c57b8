/-!
# Reading UTF-8 that may be broken

* `lossyText` — the text of bytes, with a replacement character for each sequence that is cut short
  or could not start.
-/

namespace FleetReconciler.Text

/-- What the first byte of a sequence says: its own bits, how many bytes follow, and the range of
the next one. -/
structure Lead where
  bits : Nat
  following : Nat
  low : Nat := 0x80
  high : Nat := 0xBF

/-- The meaning of a first byte; none if no sequence starts with it. -/
def lead? (b : Nat) : Option Lead :=
  if b < 0x80 then some ⟨b, 0, 0x80, 0xBF⟩
  else if b < 0xC2 then none
  else if b < 0xE0 then some ⟨b - 0xC0, 1, 0x80, 0xBF⟩
  else if b = 0xE0 then some ⟨0, 2, 0xA0, 0xBF⟩
  else if b = 0xED then some ⟨0xD, 2, 0x80, 0x9F⟩
  else if b < 0xF0 then some ⟨b - 0xE0, 2, 0x80, 0xBF⟩
  else if b = 0xF0 then some ⟨0, 3, 0x90, 0xBF⟩
  else if b = 0xF4 then some ⟨4, 3, 0x80, 0x8F⟩
  else if b < 0xF4 then some ⟨b - 0xF0, 3, 0x80, 0xBF⟩
  else none

/-- The character that stands for a broken sequence. -/
def replacement : Char := '\uFFFD'

/-- The characters of bytes. `pending` is the sequence that has begun, with its bits so far. -/
def lossyChars : (pending : Option Lead) → List UInt8 → List Char
  | none, [] => []
  | some _, [] => [replacement]
  | pending, b :: rest =>
    let n := b.toNat
    let start (done : List Char) : List Char :=
      match lead? n with
      | none => done ++ replacement :: lossyChars none rest
      | some l =>
        if l.following = 0 then done ++ Char.ofNat l.bits :: lossyChars none rest
        else done ++ lossyChars (some l) rest
    match pending with
    | none => start []
    | some l =>
      if l.low ≤ n ∧ n ≤ l.high then
        let bits := 64 * l.bits + (n - 0x80)
        if l.following = 1 then Char.ofNat bits :: lossyChars none rest
        else lossyChars (some ⟨bits, l.following - 1, 0x80, 0xBF⟩) rest
      else start [replacement]

/-- The text of bytes, without a byte order mark at its start. -/
def lossyText (bytes : ByteArray) : String :=
  match lossyChars none bytes.toList with
  | '\uFEFF' :: rest => String.ofList rest
  | cs => String.ofList cs

end FleetReconciler.Text
