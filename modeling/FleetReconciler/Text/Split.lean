/-!
# Parts of a text

* `split` — the parts between the occurrences of a character;
* `join` — parts in a row with a character between them.
-/

namespace FleetReconciler.Text

/-- The parts of a text between the occurrences of a character. -/
def split (sep : Char) : List Char → List (List Char)
  | [] => [[]]
  | c :: rest =>
    if c = sep then [] :: split sep rest
    else
      match split sep rest with
      | [] => [[c]]
      | p :: more => (c :: p) :: more

/-- The parts in a row, with a character between neighbours. -/
def join (sep : Char) : List (List Char) → List Char
  | [] => []
  | [p] => p
  | p :: more => p ++ sep :: join sep more

/-- Splits before the first character that satisfies `p`. -/
def splitBefore (p : Char → Bool) (cs : List Char) : List Char × List Char :=
  (cs.takeWhile fun c => !p c, cs.dropWhile fun c => !p c)

end FleetReconciler.Text
