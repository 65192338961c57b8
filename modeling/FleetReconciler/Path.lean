import FleetReconciler.Text.Blank

/-!
# Paths

A path is a text of names between slashes. Empty names and single dots lead nowhere; two dots lead
back from the directory that has been reached.

* `Path.names` — the names that a path leads along;
* `Path.follow` — the place to which a name leads;
* `Path.parent` — the path of the directory that holds what a path leads to;
* `Path.join` — a path seen from another.
-/

namespace FleetReconciler.Path

/-- The texts between the slashes of a path. -/
def segments : List Char → List (List Char)
  | [] => [[]]
  | c :: rest =>
    if c = '/' then [] :: segments rest
    else
      match segments rest with
      | [] => [[c]]
      | s :: more => (c :: s) :: more

/-- Whether a path starts at the root. -/
def isAbsolute (path : String) : Bool := path.toList.head? = some '/'

/-- The place from which a path leads: the root or the working directory. -/
def start (path : String) : List String := if isAbsolute path then ["/"] else []

/-- The names that a path leads along, two dots among them. -/
def names (path : String) : List String :=
  (((segments path.toList).map String.ofList)).filter fun name => name ≠ "" ∧ name ≠ "."

/-- The place to which a name leads from a directory. A place is given by the names that lead there
without going back, as far as it does not lie above the working directory. -/
def follow (place : List String) (name : String) : List String :=
  if name ≠ ".." then place ++ [name]
  else
    match place.getLast? with
    | none => [".."]
    | some last =>
      if last = "/" then place else if last = ".." then place ++ [".."] else place.dropLast

/-- What is written behind the last name of a path. -/
inductive Ending where
  | name
  | slash
  | dot
  deriving DecidableEq, Repr

/-- How a path ends. -/
def ending (path : String) : Ending :=
  match (segments path.toList).reverse.dropWhile (· = []), path.toList.getLast? with
  | ['.'] :: _, _ => .dot
  | _, some '/' => .slash
  | _, _ => .name

/-- The number of bytes that a name may have at most. -/
def maxNameLength : Nat := 255

/-- The number of bytes that a path may have at most. -/
def maxLength : Nat := 4095

/-- Drops what leads nowhere at the end of a path, which is given backwards. A slash that is all
there is stays. -/
def dropIdle : List Char → List Char
  | '/' :: c :: rest => dropIdle (c :: rest)
  | '.' :: '/' :: rest => dropIdle ('/' :: rest)
  | path => path

/-- The path of the directory that holds what a path leads to; a dot for the working directory. -/
def parent (path : String) : String :=
  let above := dropIdle ((dropIdle path.toList.reverse).dropWhile (· ≠ '/'))
  if above = [] then "." else String.ofList above.reverse

/-- The path `path` seen from `base`. -/
def join (base path : String) : String :=
  if isAbsolute path ∨ base = "" then path
  else if base.toList.getLast? = some '/' then base ++ path
  else base ++ "/" ++ path

end FleetReconciler.Path
