import FleetReconciler.Command.Basic
import FleetReconciler.Key.Reader
import FleetReconciler.Timestamp.Reader

/-!
# Arguments

What can be given to a command: options, which have a name, and operands, which are known by their
place.

* `Argument` — the arguments, with the names of the options;
* `Given` — what a command has been given; `Given.supply` and `Given.mark` add to it;
* `UsageError` — what is wrong with the words of a command line.
-/

namespace FleetReconciler

/-- What can be given to a command. -/
inductive Argument where
  | config
  | store
  | json
  | quiet
  | verbose
  | help
  | version
  | project
  | subscription
  | serviceAccount
  | instanceKey
  | managerKey
  | expires
  deriving DecidableEq, Repr

namespace Argument

/-- The long name of an option. -/
def long? : Argument → Option String
  | config => some "config"
  | store => some "store"
  | json => some "json"
  | quiet => some "quiet"
  | verbose => some "verbose"
  | help => some "help"
  | version => some "version"
  | project => some "project"
  | subscription => some "subscription"
  | serviceAccount => some "service-account"
  | instanceKey | managerKey | expires => none

/-- The letter of an option. -/
def letter? : Argument → Option Char
  | quiet => some 'q'
  | verbose => some 'v'
  | help => some 'h'
  | version => some 'V'
  | _ => none

/-- Whether an argument has a value. -/
def takesValue : Argument → Bool
  | json | quiet | verbose | help | version => false
  | _ => true

/-- The options that every command understands. -/
def common : List Argument := [config, store, json, quiet, verbose, help, version]

end Argument

/-- What is wrong with the words of a command line. -/
inductive UsageError where
  /-- A word that cannot stand where it stands. -/
  | unknownArgument
  | unknownCommand
  | missingArgument
  | missingCommand
  /-- Nothing was said at all. -/
  | silence
  /-- An option without its value, or a path that is empty. -/
  | missingValue
  /-- A value for an option that has none. -/
  | surplusValue
  /-- Arguments that exclude each other, or one that is repeated. -/
  | conflict
  | invalidKey (error : KeyError)
  | invalidTime (error : TimestampError)
  deriving DecidableEq, Repr

/-- The wording of a wrong usage. -/
def UsageError.message : UsageError → String
  | .unknownArgument => "unexpected argument"
  | .unknownCommand => "unrecognized command"
  | .missingArgument => "a required argument is missing"
  | .missingCommand => "a command is required"
  | .silence => "nothing to do"
  | .missingValue => "a value is required"
  | .surplusValue => "unexpected value"
  | .conflict => "arguments that cannot be used together"
  | .invalidKey e => "invalid key: " ++ e.message
  | .invalidTime e => "invalid time: " ++ e.message

/-- The wording of what is wrong with a value. -/
def UsageError.reason? : UsageError → Option String
  | .invalidKey e => some e.message
  | .invalidTime e => some e.message
  | _ => none

/-- What a command has been given. -/
structure Given where
  flags : Flags := {}
  project : Option String := none
  subscription : Option String := none
  serviceAccount : Option String := none
  instanceKey : Option InstanceKey := none
  managerKey : Option ManagerKey := none
  expires : Option Timestamp := none

namespace Given

/-- The value of an argument that can be given once. -/
def once {α : Type} (old : Option α) (value : Except UsageError α) :
    Except UsageError (Option α) :=
  if old.isSome then .error .conflict else value.map some

/-- A path may not be empty. -/
def pathOf (s : String) : Except UsageError String :=
  if s = "" then .error .missingValue else .ok s

/-- A key. -/
def keyOf {κ : Type} [EntityKey κ] (s : String) : Except UsageError κ :=
  (EntityKey.parse s).mapError .invalidKey

/-- A time. -/
def timeOf (s : String) : Except UsageError Timestamp := (Timestamp.parse s).mapError .invalidTime

/-- Adds the value of an argument. -/
def supply (g : Given) (a : Argument) (value : String) : Except UsageError Given :=
  match a with
  | .config => do
    let config ← once g.flags.config (pathOf value)
    return { g with flags := { g.flags with config } }
  | .store => do
    let store ← once g.flags.store (pathOf value)
    return { g with flags := { g.flags with store } }
  | .project => do return { g with project := ← once g.project (.ok value) }
  | .subscription => do return { g with subscription := ← once g.subscription (.ok value) }
  | .serviceAccount => do return { g with serviceAccount := ← once g.serviceAccount (.ok value) }
  | .instanceKey => do return { g with instanceKey := ← once g.instanceKey (keyOf value) }
  | .managerKey => do return { g with managerKey := ← once g.managerKey (keyOf value) }
  | .expires => do return { g with expires := ← once g.expires (timeOf value) }
  | .json | .quiet | .verbose | .help | .version => .error .surplusValue

/-- Adds an argument that has no value. -/
def mark (g : Given) (a : Argument) : Except UsageError Given :=
  match a with
  | .json =>
    if g.flags.json then .error .conflict
    else .ok { g with flags := { g.flags with json := true } }
  | .quiet =>
    if g.flags.quiet then .error .conflict
    else .ok { g with flags := { g.flags with quiet := true } }
  | .verbose => .ok { g with flags := { g.flags with verbose := g.flags.verbose + 1 } }
  | .help | .version => .ok g
  | _ => .error .missingValue

/-- Fails if less and more detail are asked for in one place. -/
def checkConflict (g : Given) : Except UsageError Unit :=
  if g.flags.quiet ∧ g.flags.verbose ≠ 0 then .error .conflict else .ok ()

end Given

end FleetReconciler
