import FleetReconciler.Domain.FoldingTable
import FleetReconciler.Domain.Joining
import FleetReconciler.Text.Printable

/-!
# Folding of characters

Names of hosts that differ only in the case or the form of their characters are the same. Folding
takes each character to the one that stands for it.

* `fold?` — what a character becomes;
* `isFolded` — whether it stays.
-/

namespace FleetReconciler.Domain

/-- What a code point becomes by runs. -/
def runTarget? (n : Nat) : List (Nat × Nat × Nat × Nat) → Option Nat
  | [] => none
  | (first, last, step, target) :: rest =>
    if n < first then none
    else if n ≤ last && (n - first) % step = 0 then some (target + (n - first))
    else runTarget? n rest

/-- What a character beyond ASCII becomes by the tables. -/
def foldedTo? (c : Char) : Option (List Char) :=
  let n := c.toNat
  let one := (runTarget? n foldedRuns).or
    ((foldedSingles.lookup n).or (foldedSingleForms.lookup n))
  let codes := (one.map ([·])).or
    ((foldedStrings.lookup n).or (foldedStringForms.lookup n))
  codes.map (·.map Char.ofNat)

/-- What a character of a name becomes; none if it may not stand in a name. The letters of ASCII
become small ones. -/
def fold? (c : Char) : Option (List Char) :=
  if c.toNat < 0x80 then some [c.toLower]
  else if c = joiner || c = separator then some [c]
  else if Text.inRanges c.toNat ignoredRanges then some []
  else
    match foldedTo? c with
    | some cs => some cs
    | none =>
      if Text.isPrintable c && !Text.inRanges c.toNat excludedRanges then some [c] else none

/-- Whether a character stands for itself. -/
def isFolded (c : Char) : Bool := fold? c = some [c]

end FleetReconciler.Domain
