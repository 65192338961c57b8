import FleetReconciler.Notice

/-!
# Commands

What a user can ask for.

* `Command` — the commands;
* `Flags` — what can be said with every command; `Flags.join` joins what is said in two places;
* `Invocation` — a command with its flags.
-/

namespace FleetReconciler

/-- A command. -/
inductive Command where
  | version
  | showSettings
  /-- One scan pass, and then the tasks that it queues. -/
  | schedule (pass : Pass)
  /-- The URLs of the instances of a group. -/
  | fetch (key : ManagerKey)
  | showInstance (key : InstanceKey)
  | markForDeletion (key : InstanceKey)
  /-- Sets the end of a lease, or clears it. -/
  | lease (key : InstanceKey) (expires : Option Timestamp)
  | subscribe (key : InstanceKey) (project subscription serviceAccount : String)
  | deletePending (key : InstanceKey)
  | deleteDrained (key : InstanceKey)
  /-- Scan passes and their tasks until an interrupt. -/
  | reconcile
  deriving DecidableEq, Repr

/-- What can be said with every command. -/
structure Flags where
  /-- The path of the settings. -/
  config : Option String := none
  /-- The path of the store. -/
  store : Option String := none
  /-- Whether answers are JSON. -/
  json : Bool := false
  /-- Whether only what is asked for and warnings are shown. -/
  quiet : Bool := false
  /-- How often more detail was asked for. -/
  verbose : Nat := 0
  deriving DecidableEq, Repr

namespace Flags

/-- The least important messages that are shown. -/
def logLevel (f : Flags) : String :=
  if f.quiet then "warn"
  else
    match f.verbose with
    | 0 => "info"
    | 1 => "debug"
    | _ => "trace"

/-- Whether a message is shown. -/
def shows (f : Flags) (level : NoticeLevel) : Bool := !(f.quiet && level = .info)

/-- What is said in two places; what the first says counts. -/
def join (inner outer : Flags) : Flags where
  config := inner.config <|> outer.config
  store := inner.store <|> outer.store
  json := inner.json || outer.json
  quiet := inner.quiet || outer.quiet
  verbose := if inner.verbose = 0 then outer.verbose else inner.verbose

@[simp]
theorem join_empty (f : Flags) : join f {} = f := by
  cases f with
  | mk config store json quiet verbose => cases config <;> cases store <;> simp [join, eq_comm]

@[simp]
theorem empty_join (f : Flags) : join {} f = f := by
  cases f
  simp [join]

end Flags

/-- A command with its flags. -/
structure Invocation where
  flags : Flags
  command : Command
  deriving DecidableEq, Repr

end FleetReconciler
