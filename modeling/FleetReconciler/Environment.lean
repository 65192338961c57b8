import FleetReconciler.Failure
import FleetReconciler.Path
import FleetReconciler.Program

/-!
# The environment

What a program finds in the variables of its environment: where its files are and which secrets it
has.

* `Environment.settingsPath` — where the settings are;
* `Environment.storePath` — where the store is, unless anything else is said;
* `Credentials.ofEnvironment` — the secrets.
-/

namespace FleetReconciler

/-- The variables, and the home directory of the account, for where no variable names one. -/
structure Environment where
  bindings : List (String × String)
  accountHome : String := "/root"

namespace Environment

/-- The value of a variable. -/
def value? (e : Environment) (name : String) : Option String :=
  (e.bindings.find? (·.1 = name)).map Prod.snd

/-- The home directory. -/
def home (e : Environment) : String := (Text.nonEmpty? (e.value? "HOME")).getD e.accountHome

/-- The path of a file of the program in the home directory. -/
def homeFile (e : Environment) (name : String) : String :=
  Path.join (Path.join e.home ("." ++ programName)) name

/-- The path of the settings: the given one, else that of a variable, else one in the home
directory. -/
def settingsPath (e : Environment) (given : Option String) : String :=
  (given <|> e.value? "GCE_BACKEND_CONFIG").getD (e.homeFile "config.yaml")

/-- The path of the store where none is configured. -/
def storePath (e : Environment) : String := e.homeFile "store.json"

end Environment

/-! ## Credentials -/

/-- The secrets of the program. -/
structure Credentials where
  /-- The token that authenticates the calls of the compute API. -/
  accessToken : Option String := none
  deriving DecidableEq

namespace Credentials

/-- How the names of variables with secrets start. -/
def nameStart : List Char := "GCE_BACKEND_".toList

/-- A name without its start, which may be repeated; none if it does not have it. -/
def withoutStart? (name : List Char) : Option (List Char) :=
  if nameStart.isPrefixOf name then some (strip name.length name) else none
where
  /-- Takes the start away as often as it is there. -/
  strip : Nat → List Char → List Char
    | fuel + 1, cs => if nameStart.isPrefixOf cs then strip fuel (cs.drop nameStart.length) else cs
    | 0, cs => cs

/-- The lower case of a character, as far as it is a letter of ASCII: that of such a letter, and of
the sign for kelvins. -/
def lower (c : Char) : Char := if c = '\u212A' then 'k' else c.toLower

/-- The values of the variables that give a secret. -/
def valuesOf (secret : String) (e : Environment) : List String :=
  e.bindings.filterMap fun (name, value) =>
    match withoutStart? name.toList with
    | some rest => if rest.map lower = secret.toList then some value else none
    | none => none

/-- The secrets in the environment. Each may be given once. -/
def ofEnvironment (e : Environment) : Except Failure Credentials :=
  match valuesOf "access_token" e with
  | [] => .ok {}
  | [token] => .ok { accessToken := some token }
  | _ => .error ((Failure.of (.duplicate "access_token")).within .loadingCredentials)

/-- A text about the secrets that does not tell them. -/
def redacted (c : Credentials) : String :=
  let token := if c.accessToken.isSome then "Some(\"<redacted>\")" else "None"
  "Credentials \x7b access_token: " ++ token ++ " \x7d"

end Credentials

end FleetReconciler
