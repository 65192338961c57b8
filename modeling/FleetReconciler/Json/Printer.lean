import FleetReconciler.Json.Number
import FleetReconciler.Text.Quoted

/-!
# JSON texts

* `Json.compact` — on one line without blanks;
* `Json.pretty` — one item or member a line, indented by two spaces a level; an empty array or
  object stays on its line.

In a string the quote, the backslash and the controls are escaped, all else stands as it is.
-/

namespace FleetReconciler.Json

/-- One character of a JSON string. -/
def escapedChar (c : Char) : List Char :=
  if c = '"' then ['\\', '"']
  else if c = '\\' then ['\\', '\\']
  else if c = '\x08' then ['\\', 'b']
  else if c = '\x0c' then ['\\', 'f']
  else if c = '\n' then ['\\', 'n']
  else if c = '\r' then ['\\', 'r']
  else if c = '\t' then ['\\', 't']
  else if c.toNat < 0x20 then '\\' :: 'u' :: Text.hexPadded 4 c.toNat
  else [c]

/-- A JSON string with its quotes. -/
def stringText (s : String) : List Char :=
  '"' :: (s.toList.flatMap escapedChar ++ ['"'])

/-! ## On one line -/

mutual

/-- The characters of a value on one line. -/
def compactText : Json → List Char
  | .null => "null".toList
  | .bool b => (if b then "true" else "false").toList
  | .num n => n.text
  | .str s => stringText s
  | .arr [] => ['[', ']']
  | .arr (x :: xs) => '[' :: (compactText x ++ compactItems xs ++ [']'])
  | .obj [] => ['\x7b', '\x7d']
  | .obj ((n, x) :: ms) =>
    '\x7b' :: (stringText n ++ ':' :: (compactText x ++ compactMembers ms ++ ['\x7d']))

/-- The items after the first, each behind a comma. -/
def compactItems : List Json → List Char
  | [] => []
  | x :: xs => ',' :: (compactText x ++ compactItems xs)

/-- The members after the first, each behind a comma. -/
def compactMembers : List (String × Json) → List Char
  | [] => []
  | (n, x) :: ms => ',' :: (stringText n ++ ':' :: (compactText x ++ compactMembers ms))

end

/-- The value on one line. -/
def compact (j : Json) : String := String.ofList (compactText j)

/-! ## Indented -/

/-- A new line at an indentation of `depth` levels. -/
def newLine (depth : Nat) : List Char := '\n' :: List.replicate (2 * depth) ' '

mutual

/-- The characters of a value whose first line stands at `depth` levels. -/
def prettyText (depth : Nat) : Json → List Char
  | .null => "null".toList
  | .bool b => (if b then "true" else "false").toList
  | .num n => n.text
  | .str s => stringText s
  | .arr [] => ['[', ']']
  | .arr (x :: xs) =>
    '[' :: (newLine (depth + 1) ++ prettyText (depth + 1) x ++ prettyItems (depth + 1) xs ++
      newLine depth ++ [']'])
  | .obj [] => ['\x7b', '\x7d']
  | .obj ((n, x) :: ms) =>
    '\x7b' :: (newLine (depth + 1) ++ stringText n ++ ':' :: ' ' ::
      (prettyText (depth + 1) x ++ prettyMembers (depth + 1) ms ++ newLine depth ++ ['\x7d']))

/-- The items after the first, each on a line of its own. -/
def prettyItems (depth : Nat) : List Json → List Char
  | [] => []
  | x :: xs => ',' :: (newLine depth ++ prettyText depth x ++ prettyItems depth xs)

/-- The members after the first, each on a line of its own. -/
def prettyMembers (depth : Nat) : List (String × Json) → List Char
  | [] => []
  | (n, x) :: ms =>
    ',' :: (newLine depth ++ stringText n ++ ':' :: ' ' ::
      (prettyText depth x ++ prettyMembers depth ms))

end

/-- The value with one item or member a line. -/
def pretty (j : Json) : String := String.ofList (prettyText 0 j)

end FleetReconciler.Json
