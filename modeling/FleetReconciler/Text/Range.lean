/-!
# Ranges of code points

* `inRanges` — whether a number lies in one of the ranges of a table.
-/

namespace FleetReconciler.Text

/-- Whether `n` lies in one of the ranges, which ascend. -/
def inRanges (n : Nat) : List (Nat × Nat) → Bool
  | [] => false
  | (lo, hi) :: rest => if n < lo then false else if n ≤ hi then true else inRanges n rest

end FleetReconciler.Text
