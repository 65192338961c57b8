import FleetReconciler.Text.CombiningClass
import FleetReconciler.Text.Composite

/-!
# The normal form of a text

Texts that look the same can consist of different characters: a letter with an accent is one
character or two. In the normal form every composite stands for what it consists of, and the marks
of a letter are in the order of their classes.

* `decomposed` — a character as what it stands for, down to the end;
* `reordered` — marks in their order;
* `recomposed` — characters that can be written as a composite are;
* `normalized` — the normal form (NFC).
-/

namespace FleetReconciler.Text

/-! ## Syllables -/

/-- The syllables of Hangul are numbered by their three letters, of which the last may be missing:
19 by 21 by 28. -/
def syllableBase : Nat := 0xAC00

/-- The first of the letters that start a syllable. -/
def leadBase : Nat := 0x1100

/-- The first of the letters in the middle of a syllable. -/
def vowelBase : Nat := 0x1161

/-- The number before the first of the letters that end a syllable. -/
def tailBase : Nat := 0x11A7

/-- Whether a code point is a syllable. -/
def isSyllable (n : Nat) : Bool := syllableBase ≤ n && n < syllableBase + 19 * 21 * 28

/-- The letters of a syllable. -/
def syllableLetters (n : Nat) : List Nat :=
  let i := n - syllableBase
  [leadBase + i / (21 * 28), vowelBase + i / 28 % 21] ++
    if i % 28 = 0 then [] else [tailBase + i % 28]

/-- The syllable of two letters, or of a syllable without an end and its end. -/
def syllable? (a b : Nat) : Option Nat :=
  if leadBase ≤ a ∧ a < leadBase + 19 ∧ vowelBase ≤ b ∧ b < vowelBase + 21 then
    some (syllableBase + ((a - leadBase) * 21 + (b - vowelBase)) * 28)
  else if isSyllable a ∧ (a - syllableBase) % 28 = 0 ∧ tailBase < b ∧ b < tailBase + 28 then
    some (a + (b - tailBase))
  else none

/-! ## Taking apart -/

/-- The ideograph that a code point stands for. -/
def variantOf? (n : Nat) : Option Nat :=
  variantBlocks.findSome? fun (first, others) => if n < first then none else others[n - first]?

/-- How many composites can be nested, each the first character of the next. -/
def nesting : Nat := 3

/-- What a code point stands for, with at most `depth` nested composites. -/
def decomposedCode : (depth : Nat) → Nat → List Nat
  | 0, n => [n]
  | depth + 1, n =>
    if isSyllable n then syllableLetters n
    else
      match composites.lookup n with
      | some (a, b) => decomposedCode depth a ++ [b]
      | none =>
        match expanded.lookup n with
        | some codes => codes
        | none => [(variantOf? n).getD n]

/-- What a character stands for. -/
def decomposed (c : Char) : List Char := (decomposedCode nesting c.toNat).map Char.ofNat

/-! ## Order -/

/-- Puts a character before others, but behind marks of lower classes. -/
def insertMark (c : Char) : List Char → List Char
  | [] => [c]
  | d :: rest =>
    if combiningClass d ≠ 0 ∧ combiningClass d < combiningClass c then d :: insertMark c rest
    else c :: d :: rest

/-- The characters with marks in the order of their classes. -/
def reordered (cs : List Char) : List Char := cs.foldr insertMark []

/-! ## Putting together -/

/-- The composite of two characters. -/
def composite? (a b : Char) : Option Char :=
  let found := (syllable? a.toNat b.toNat).or
    ((composites.find? fun (_, x, y) => x = a.toNat ∧ y = b.toNat).map (·.1))
  found.map Char.ofNat

/-- Whether a character is cut off from what stands before the marks: one of them has its class or
a higher one. The nearest mark is the first. -/
def isBlocked (marks : List Char) (c : Char) : Bool :=
  marks.head?.any fun m => combiningClass c ≤ combiningClass m

/-- Puts together what follows a character of class 0 and marks that stay, the nearest first. -/
def recomposedAfter (start : Char) (marks : List Char) : List Char → List Char
  | [] => start :: marks.reverse
  | c :: rest =>
    match if isBlocked marks c then none else composite? start c with
    | some composite => recomposedAfter composite marks rest
    | none =>
      if combiningClass c = 0 then start :: marks.reverse ++ recomposedAfter c [] rest
      else recomposedAfter start (c :: marks) rest

/-- Puts composites together wherever there are any. -/
def recomposed : List Char → List Char
  | [] => []
  | c :: rest => if combiningClass c = 0 then recomposedAfter c [] rest else c :: recomposed rest

/-- The normal form of a text. Characters before the first mark are in it already. -/
def normalized (cs : List Char) : List Char :=
  if cs.all fun c => c.toNat < 0x300 then cs
  else recomposed (reordered (cs.flatMap decomposed))

/-- Whether a text is in its normal form. -/
def isNormal (cs : List Char) : Bool := normalized cs = cs

end FleetReconciler.Text
