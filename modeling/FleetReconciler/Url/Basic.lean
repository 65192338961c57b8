import FleetReconciler.Decimal.Digits
import FleetReconciler.Text.Blank
import FleetReconciler.Text.Percent

/-!
# URLs

A URL in its normal form.

* `Url.Authority`, `Url` — the parts;
* `Url.text` — the written form;
* `Url.withQuery` — the URL with more pairs in its query;
* `Url.withoutUser` — the URL without the user whom it names.
-/

namespace FleetReconciler

/-- What stands behind the two slashes of a URL. -/
structure Url.Authority where
  /-- The user, as it is written. -/
  user : String
  /-- The password of the user, as it is written. -/
  password : Option String
  /-- The host, which may be missing. -/
  host : String
  /-- The number of the service, unless it is that of the scheme. -/
  service : Option Nat
  deriving DecidableEq, Repr

/-- The parts of a URL. -/
structure Url where
  scheme : String
  authority : Option Url.Authority
  path : String
  query : Option String
  fragment : Option String
  deriving DecidableEq, Repr

namespace Url

/-! ## Authorities -/

namespace Authority

/-- A host alone. -/
def ofHost (host : String) : Authority := ⟨"", none, host, none⟩

/-- The user with the password, as it is written in front of a host. -/
def userText (a : Authority) : String :=
  if a.user = "" ∧ a.password = none then ""
  else a.user ++ (a.password.map (":" ++ ·)).getD "" ++ "@"

/-- The written form of an authority. -/
def text (a : Authority) : String :=
  a.userText ++ a.host ++ (a.service.map fun n => ":" ++ Decimal.text n).getD ""

/-- A written text that means what its bytes say. -/
def meaning? (written : String) : Option String :=
  String.fromUTF8? (Text.percentDecoded .empty written.toList)

/-- The user by name, or by a password alone, if they can be read. -/
def credentials? (a : Authority) : Option (String × Option String) := do
  let name ← meaning? a.user
  let password := a.password.bind meaning?
  if name = "" ∧ password = none then none else return (name, password)

/-- The authority without the user. -/
def withoutUser (a : Authority) : Authority := { a with user := "", password := none }

end Authority

/-! ## Schemes -/

/-- The schemes whose URLs have a host, with the numbers of their services. -/
def services : List (String × Nat) :=
  [("http", 80), ("https", 443), ("ws", 80), ("wss", 443), ("ftp", 21)]

/-- Whether the URLs of a scheme are read by the rules for the web. -/
def isSpecial (scheme : String) : Bool :=
  scheme = "file" || services.any (·.1 = scheme)

/-! ## URLs -/

/-- Whether a URL names a host. -/
def hasHost (u : Url) : Bool := u.authority.any (·.host ≠ "")

/-- The written form of a URL. A path with two slashes at its start would be taken for an authority,
so that a dot is put between them if there is none. -/
def text (u : Url) : String :=
  let authority := match u.authority with
    | some a => "//" ++ a.text
    | none => if "//".toList.isPrefixOf u.path.toList then "/." else ""
  u.scheme ++ ":" ++ authority ++ u.path ++ (u.query.map ("?" ++ ·)).getD "" ++
    (u.fragment.map ("#" ++ ·)).getD ""

/-- The URL without the user whom it names, if who it is can be read. -/
def withoutUser (u : Url) : Url :=
  { u with authority := u.authority.map fun a =>
      if a.credentials?.isSome then a.withoutUser else a }

/-- A pair of a query. -/
def pairText (p : String × String) : String := Text.formEncoded p.1 ++ "=" ++ Text.formEncoded p.2

/-- The URL with more pairs in its query. A query that is empty in the end is left out. -/
def withQuery (u : Url) (pairs : List (String × String)) : Url :=
  let old := (u.query.getD "")
  let new := Text.joinWith "&" (pairs.map pairText)
  let query := if old ≠ "" && new ≠ "" then old ++ "&" ++ new else old ++ new
  { u with query := if query = "" then none else some query }

end Url

end FleetReconciler
