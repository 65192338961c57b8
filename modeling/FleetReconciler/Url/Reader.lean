import FleetReconciler.Url.Basic
import FleetReconciler.Url.Host

/-!
# Reading URLs

A text is read as a URL of its own, not relative to another one. Blanks around it do not count, and
neither do tabs and line breaks inside. For the schemes of the web a backslash is a slash.

* `Url.parse?` — the URL of a text.
-/

namespace FleetReconciler.Url

/-! ## Characters that stand as they are -/

/-- Whether a character is printable ASCII other than the space. -/
def isGraphic (c : Char) : Bool := 0x20 < c.toNat && c.toNat < 0x7F

/-- In a fragment. -/
def keptInFragment (c : Char) : Bool := isGraphic c && c ∉ ['"', '<', '>', '\x60']

/-- In a path. -/
def keptInPath (c : Char) : Bool :=
  keptInFragment c && c ∉ ['#', '?', '\x7b', '\x7d']

/-- In the name or the password of a user. -/
def keptInUser (c : Char) : Bool :=
  keptInPath c && c ∉ ['/', ':', ';', '=', '@', '[', '\\', ']', '^', '|']

/-- In a query. -/
def keptInQuery (special : Bool) (c : Char) : Bool :=
  isGraphic c && c ∉ ['"', '#', '<', '>'] && !(special && c = '\'')

/-- In a path that is no list of names. -/
def keptInOpaquePath (c : Char) : Bool := 0x20 ≤ c.toNat && c.toNat < 0x7F

/-! ## Parts -/

/-- A text without what does not count. -/
def cleaned (s : String) : List Char :=
  let isOutside (c : Char) : Bool := c.toNat ≤ 0x20
  (Text.dropEndWhile isOutside (s.toList.dropWhile isOutside)).filter fun c =>
    c ≠ '\t' && c ≠ '\n' && c ≠ '\r'

/-- The scheme in lower case, and what follows its colon. -/
def scheme? (cs : List Char) : Option (String × List Char) := do
  let isPart (c : Char) : Bool := Text.isAlphanumeric c || ['+', '-', '.'].contains c
  let first ← cs.head?
  if !first.isAlpha then none
  match cs.dropWhile isPart with
  | ':' :: rest => return (String.ofList ((cs.takeWhile isPart).map Char.toLower), rest)
  | _ => none

/-- Whether a character is a slash. -/
def isSlash (special : Bool) (c : Char) : Bool := c = '/' || (special && c = '\\')

/-! ## Authorities -/

/-- What stands before and behind the last `@`; all is behind if there is none. -/
def splitUser (authority : List Char) : Option (List Char) × List Char :=
  match authority.reverse.span (· ≠ '@') with
  | (behind, []) => (none, behind.reverse)
  | (behind, _ :: before) => (some before.reverse, behind.reverse)

/-- The written name and password of a user. An empty password does not count. -/
def user (cs : List Char) : String × Option String :=
  let (name, rest) := Text.splitBefore (· = ':') cs
  let written (cs : List Char) : String := String.ofList (Text.percentEncoded keptInUser cs)
  (written name, if rest.length ≤ 1 then none else some (written (rest.drop 1)))

/-- The host and what follows it. Colons in brackets belong to the host. -/
def splitHost (cs : List Char) : List Char × List Char :=
  match cs with
  | '[' :: _ =>
    let (address, rest) := Text.splitBefore (· = ']') cs
    let (more, rest) := Text.splitBefore (· = ':') rest
    (address ++ more, rest)
  | cs => Text.splitBefore (· = ':') cs

/-- The number of a service from its digits; that of the scheme does not count. -/
def service? (scheme : String) (digits : List Char) : Option (Option Nat) := do
  if digits = [] then return none
  let n ← Decimal.natOf? digits
  if n ≥ Nat.pow 2 16 then none
  return if services.contains (scheme, n) then none else some n

/-- Reads an authority, and what follows its service from a backslash on, where that is no slash.
Only a scheme without rules of its own can do without a host, and then without all else. -/
def authority? (scheme : String) (cs : List Char) : Option (Authority × List Char) := do
  let special := isSpecial scheme
  let (before, behind) := splitUser cs
  let (user, password) := user (before.getD [])
  let (host, rest) := splitHost behind
  if host = [] then
    if special || rest ≠ [] || before = some [] || user ≠ "" || password.isSome then none
    return (.ofHost "", [])
  let (digits, more) := Text.splitBefore (· = '\\') (rest.drop 1)
  return (⟨user, password, ← Host.ofChars? special host, ← service? scheme digits⟩, more)

/-! ## Paths -/

/-- Whether a name stands for its own directory. -/
def isSingleDot (name : List Char) : Bool :=
  [".", "%2e"].contains (String.ofList (name.map Char.toLower))

/-- Whether a name stands for the directory above. -/
def isDoubleDot (name : List Char) : Bool :=
  ["..", ".%2e", "%2e.", "%2e%2e"].contains (String.ofList (name.map Char.toLower))

/-- Whether a name is the letter of a drive with a colon or a bar. -/
def isDrive : List Char → Bool
  | [letter, sign] => letter.isAlpha && (sign = ':' || sign = '|')
  | _ => false

/-- The directory above, in names with the innermost first. Nothing is above a drive. -/
def parent : List (List Char) → List (List Char)
  | [] => []
  | name :: rest => if isDrive name then name :: rest else rest

/-- A name as it is written. Where drives count, one that comes first has a colon. -/
def nameText (hasDrives isFirst : Bool) (name : List Char) : List Char :=
  let written := Text.percentEncoded keptInPath name
  if hasDrives && isFirst && isDrive written then written.take 1 ++ [':'] else written

/-- The names of a path, the innermost first. A path that ends in dots ends in a slash. -/
def follow (hasDrives : Bool) (names : List (List Char)) :
    List (List Char) → List (List Char)
  | [] => names
  | name :: rest =>
    if isDoubleDot name then
      let above := parent names
      follow hasDrives (if rest.isEmpty then [] :: above else above) rest
    else if isSingleDot name then
      follow hasDrives (if rest.isEmpty then [] :: names else names) rest
    else follow hasDrives (nameText hasDrives names.isEmpty name :: names) rest

/-- The names between the slashes of a path. -/
def namesIn (special : Bool) (cs : List Char) : List (List Char) :=
  Text.split '/' (cs.map fun c => if isSlash special c then '/' else c)

/-- The written path of names, the innermost first. -/
def pathOf (names : List (List Char)) : String :=
  String.ofList ('/' :: Text.join '/' names.reverse)

/-- The path of the names behind its first slash. -/
def pathText (special : Bool) (cs : List Char) : String :=
  pathOf (follow false [] (namesIn special cs))

/-- Splits a text into path, query and fragment. -/
def splitTail (cs : List Char) : List Char × Option (List Char) × Option (List Char) :=
  let (before, fragment) := Text.splitBefore (· = '#') cs
  let (path, query) := Text.splitBefore (· = '?') before
  (path, query.tail?, fragment.tail?)

/-- A URL of its authority and what follows it. -/
def assemble (scheme : String) (authority : Option Authority) (path : String)
    (query fragment : Option (List Char)) : Url :=
  let encoded (keep : Char → Bool) (cs : List Char) : String :=
    String.ofList (Text.percentEncoded keep cs)
  { scheme, authority, path
    query := query.map (encoded (keptInQuery (isSpecial scheme)))
    fragment := fragment.map (encoded keptInFragment) }

/-- The path behind an authority. For the schemes of the web it is never empty. -/
def pathBehind (special : Bool) : List Char → String
  | [] => if special then "/" else ""
  | c :: rest => if isSlash special c then pathText special rest else pathText special (c :: rest)

/-- Reads what follows the two slashes before an authority. -/
def withAuthority? (scheme : String) (cs : List Char) : Option Url := do
  let special := isSpecial scheme
  let ends (c : Char) : Bool := isSlash special c || c = '?' || c = '#'
  let (before, rest) := Text.splitBefore ends cs
  let (authority, more) ← authority? scheme before
  let (path, query, fragment) := splitTail (more ++ rest)
  return assemble scheme (some authority) (pathBehind special path) query fragment

/-! ## Files -/

/-- The URL of a file by its host and the names of its path. A path that starts with a drive is one
of this machine, which has no host, and slashes at the start count as one. -/
def fileUrl (host : String) (names : List (List Char)) (query fragment : Option (List Char)) : Url :=
  let followed := follow true [] names
  let host := if followed.getLast?.any isDrive then "" else host
  let path := (pathOf followed).toList.dropWhile (· = '/')
  assemble "file" (some (.ofHost host)) (String.ofList ('/' :: path)) query fragment

/-- Reads what follows the two slashes of a file URL. What names this machine is no host, and then
the slash before the path is a name by itself. -/
def fileWithHost? (cs : List Char) : Option Url := do
  let ends (c : Char) : Bool := isSlash true c || c = '?' || c = '#'
  let (name, rest) := Text.splitBefore ends cs
  let hasHost := name ≠ [] && !isDrive name
  let host ← if hasHost then Host.ofChars? true name else some "localhost"
  let (path, query, fragment) := splitTail (if hasHost then rest else cs)
  if host = "localhost" then return fileUrl "" (namesIn true path) query fragment
  else return fileUrl host (namesIn true (path.drop 1)) query fragment

/-- Reads what follows the colon of a file URL. -/
def file? (cs : List Char) : Option Url :=
  match cs with
  | a :: b :: rest =>
    if isSlash true a && isSlash true b then fileWithHost? rest else some plain
  | _ => some plain
where
  /-- A file URL without a host. -/
  plain : Url :=
    let (path, query, fragment) := splitTail cs
    let path := if path.head?.any (isSlash true) then path.drop 1 else path
    fileUrl "" (namesIn true path) query fragment

/-! ## URLs -/

/-- Reads what follows the colon of a scheme without rules of its own. -/
def other? (scheme : String) (cs : List Char) : Option Url :=
  match cs with
  | '/' :: '/' :: rest => withAuthority? scheme rest
  | _ =>
    let (path, query, fragment) := splitTail cs
    let path := match path with
      | '/' :: rest => pathText false rest
      | path => String.ofList (Text.percentEncoded keptInOpaquePath path)
    some (assemble scheme none path query fragment)

/-- The URL of a text. -/
def parse? (s : String) : Option Url := do
  let (scheme, rest) ← scheme? (cleaned s)
  if scheme = "file" then file? rest
  else if isSpecial scheme then withAuthority? scheme (rest.dropWhile (isSlash true))
  else other? scheme rest

end FleetReconciler.Url
