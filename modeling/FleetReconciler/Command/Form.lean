import FleetReconciler.Command.Argument
import FleetReconciler.Program

/-!
# The forms of commands

Which commands there are, and what each of them understands.

* `CommandForm` — a command, or a group of commands;
* `CommandForm.program` — all commands of the program.
-/

namespace FleetReconciler

/-- A command or a group of commands, with its name. -/
inductive CommandForm where
  /-- A command: its options beside the common ones, its operands in order, and what it becomes with
  what it has been given, unless something is missing. -/
  | command (name : String) (options operands : List Argument) (build : Given → Option Command)
  | group (name : String) (members : List CommandForm)

namespace CommandForm

/-- The name. -/
def name : CommandForm → String
  | command name .. => name
  | group name _ => name

/-- The commands in a group. -/
def members : CommandForm → List CommandForm
  | command .. => []
  | group _ members => members

/-- The command in a group that has a name. -/
def member? (f : CommandForm) (word : String) : Option CommandForm :=
  f.members.find? (·.name = word)

/-- The options. -/
def options : CommandForm → List Argument
  | command _ options .. => Argument.common ++ options
  | group .. => Argument.common

/-- The operands. -/
def operands : CommandForm → List Argument
  | command _ _ operands _ => operands
  | group .. => []

/-- The name of the command that shows help; every group has it. -/
def helpName : String := "help"

/-- Whether a word is the name of a command in a group. -/
def knows (f : CommandForm) (word : String) : Bool :=
  !f.members.isEmpty && (word = helpName || (f.member? word).isSome)

/-! ## The commands of the program -/

/-- A command that needs nothing. -/
def plain (name : String) (c : Command) : CommandForm := command name [] [] fun _ => some c

/-- A command that needs the key of an instance. -/
def ofInstance (name : String) (make : InstanceKey → Command) : CommandForm :=
  command name [] [.instanceKey] fun g => g.instanceKey.map make

/-- A command that needs the key of an instance and takes a time. -/
def ofLease (name : String) : CommandForm :=
  command name [] [.instanceKey, .expires] fun g =>
    g.instanceKey.map fun key => .lease key g.expires

/-- A command that needs the key of an instance and a subscription. -/
def ofSubscription (name : String) : CommandForm :=
  command name [.project, .subscription, .serviceAccount] [.instanceKey] fun g => do
    return .subscribe (← g.instanceKey) (← g.project) (← g.subscription) (← g.serviceAccount)

/-- A command that needs the key of a manager. -/
def ofManager (name : String) (make : ManagerKey → Command) : CommandForm :=
  command name [] [.managerKey] fun g => g.managerKey.map make

/-- The scan passes. -/
def passes : List CommandForm :=
  [Pass.fetch, .pendingDeletion, .drainedDeletion].map fun p => plain p.text (.schedule p)

/-- All commands. -/
def program : CommandForm :=
  group programName [
    group "schedule" passes,
    ofManager "fetch" .fetch,
    group "instance" [
      ofInstance "show" .showInstance,
      ofInstance "mark-for-deletion" .markForDeletion,
      ofLease "lease",
      ofSubscription "subscribe"],
    group "delete" [
      ofInstance "pending" .deletePending,
      ofInstance "drained" .deleteDrained],
    plain "reconcile" .reconcile,
    group "config" [plain "show" .showSettings],
    plain "version" .version]

/-- The names under which a command or the members of a group are called. -/
def calls (f : CommandForm) : List String :=
  if f.members.isEmpty then [f.name] else f.members.map fun m => f.name ++ " " ++ m.name

/-- A line for every command. -/
def usageText : String :=
  "Usage: " ++ programName ++ " [OPTIONS] <COMMAND>\n\nCommands:\n" ++
    Text.joinWith "\n" ((program.members.flatMap calls).map ("  " ++ ·)) ++ "\n"

end CommandForm

end FleetReconciler
