/-!
# Blank characters and words

* `isBlank` — the characters with the Unicode property White_Space;
* `words` — the maximal runs of characters that are not blank;
* `trimBlank` — a text without its leading and trailing blanks;
* `nonEmpty?`, `joinWith` — texts that are given, and texts in a row.
-/

namespace FleetReconciler.Text

/-- The characters with the Unicode property White_Space: 25 code points in ten ranges. -/
def isBlank (c : Char) : Bool :=
  let n := c.toNat
  (0x09 ≤ n && n ≤ 0x0D) || n == 0x20 || n == 0x85 || n == 0xA0 || n == 0x1680 ||
    (0x2000 ≤ n && n ≤ 0x200A) || n == 0x2028 || n == 0x2029 || n == 0x202F || n == 0x205F ||
    n == 0x3000

/-- The words of a text: its maximal runs of characters that are not blank. -/
def words : List Char → List (List Char)
  | [] => []
  | c :: rest =>
    if isBlank c then words rest
    else
      match rest, words rest with
      | d :: _, w :: ws => if isBlank d then [c] :: w :: ws else (c :: w) :: ws
      | _, ws => [c] :: ws

/-- The words of a string, as strings. -/
def wordsOf (s : String) : List String :=
  (words s.toList).map String.ofList

/-- Drops the longest suffix whose characters all satisfy `p`. -/
def dropEndWhile (p : Char → Bool) (cs : List Char) : List Char :=
  (cs.reverse.dropWhile p).reverse

/-- A string without its leading and trailing blanks. -/
def trimBlank (s : String) : String :=
  String.ofList (dropEndWhile isBlank (s.toList.dropWhile isBlank))

/-- Whether a string holds nothing but blanks. -/
def isAllBlank (s : String) : Bool :=
  s.toList.all isBlank

/-- A string that is given and not empty. -/
def nonEmpty? (s : Option String) : Option String := s.filter (· ≠ "")

/-- The strings joined with `sep` between neighbours. -/
def joinWith (sep : String) (parts : List String) : String :=
  sep.intercalate parts

end FleetReconciler.Text
