import FleetReconciler.Command.Form

/-!
# Reading command lines

The words of a command line are read from left to right. A word is a separator, an option, the name
of a command in a group, the value that an option waits for, or an operand. The value of an argument
is checked when the next argument has been understood, or else at the end, so of two faults a word
that cannot be understood is reported before a bad value in front of it. What a command is given is
checked before what the group around it is given.

* `Word.ofString` — the shape of a word;
* `Stop` — help, the version or a wrong usage, in place of a command;
* `Reading` — a command or group of which some words have been read;
* `Invocation.ofWords` — the invocation that a command line asks for.
-/

namespace FleetReconciler

/-- The shape of a word. -/
inductive Word where
  /-- Only operands follow. -/
  | separator
  /-- An option by its name, perhaps with its value. -/
  | long (name : String) (value : Option String)
  /-- Options by their letters. -/
  | letters (cs : List Char)
  | plain
  deriving DecidableEq, Repr

/-- The shape of a word. -/
def Word.ofString (word : String) : Word :=
  match word.toList with
  | ['-', '-'] => separator
  | '-' :: '-' :: cs =>
    let name := String.ofList (cs.takeWhile (· ≠ '='))
    match cs.dropWhile (· ≠ '=') with
    | [] => long name none
    | _ :: value => long name (some (String.ofList value))
  | '-' :: c :: cs => letters (c :: cs)
  | _ => plain

/-- Why the reading of a command line ends before there is a command to run. -/
inductive Stop where
  /-- Help is asked for. -/
  | help
  /-- The version is asked for, of the command with a title. -/
  | version (title : String)
  | usage (error : UsageError)
  deriving DecidableEq, Repr

namespace Stop

/-- The exit code. -/
def exitCode : Stop → Nat
  | help | version _ => 0
  | usage _ => 2

/-- The text for standard output. -/
def outputText : Stop → String
  | help => CommandForm.usageText
  | version title => title ++ " " ++ programVersion ++ "\n"
  | usage _ => ""

/-- The text for standard error, if there is one. -/
def errorText? : Stop → Option String
  | help | version _ => none
  | usage e => some ("error: " ++ e.message ++ "\n\n" ++ CommandForm.usageText)

end Stop

/-- A result that a wrong usage stops. -/
def orStop {α : Type} (r : Except UsageError α) : Except Stop α := r.mapError .usage

/-- An argument whose value has not been checked; there is none while the option waits for it. -/
structure Pending where
  argument : Argument
  value : Option String
  deriving DecidableEq, Repr

/-- A command or group of which some words have been read. -/
structure Reading where
  form : CommandForm
  /-- The names of the groups around it and its own. -/
  title : String
  /-- The operands that have not been found yet. -/
  operands : List Argument
  given : Given := {}
  pending : Option Pending := none
  /-- Whether only operands follow. -/
  separated : Bool := false

namespace Reading

/-- A command or group of which nothing has been read. -/
def start (title : String) (form : CommandForm) : Reading :=
  { form, title, operands := form.operands }

/-- Whether an option waits for its value. -/
def awaits (r : Reading) : Bool := r.pending.any fun p => p.value.isNone

/-- Checks the value that has not been checked. -/
def settle (r : Reading) : Except UsageError Reading :=
  match r.pending with
  | none => .ok r
  | some ⟨_, none⟩ => .error .missingValue
  | some ⟨a, some value⟩ => do return { r with given := ← r.given.supply a value, pending := none }

/-- The option for which a test holds. -/
def option? (r : Reading) (test : Argument → Bool) : Option Argument := r.form.options.find? test

/-- Takes an option without a value. -/
def takeSwitch (r : Reading) (a : Argument) : Except Stop Reading := do
  let r ← orStop r.settle
  match a with
  | .help => throw .help
  | .version => throw (.version r.title)
  | a => return { r with given := ← orStop (r.given.mark a) }

/-- Takes an option by its name. -/
def takeLong (r : Reading) (name : String) (value : Option String) : Except Stop Reading :=
  match r.option? fun a => a.long? = some name, value with
  | none, _ => .error (.usage .unknownArgument)
  | some a, some v =>
    if a.takesValue then do
      let r ← orStop r.settle
      return { r with given := ← orStop (r.given.supply a v) }
    else .error (.usage .surplusValue)
  | some a, none =>
    if a.takesValue then do
      let r ← orStop r.settle
      return { r with pending := some ⟨a, none⟩ }
    else r.takeSwitch a

/-- Takes options by their letters. -/
def takeLetters : List Char → Reading → Except Stop Reading
  | [], r => .ok r
  | c :: cs, r =>
    match r.option? fun a => a.letter? = some c with
    | none => .error (.usage .unknownArgument)
    | some a => do takeLetters cs (← r.takeSwitch a)

/-- What is wrong with a word for which there is no place. -/
def strayWord (r : Reading) (word : String) : UsageError :=
  if r.form.members.isEmpty ∨ (r.separated ∧ r.form.knows word) then .unknownArgument
  else .unknownCommand

/-- Takes an operand. -/
def takeOperand (r : Reading) (word : String) : Except Stop Reading :=
  match r.operands with
  | [] => .error (.usage (r.strayWord word))
  | a :: operands => do
    let r ← orStop r.settle
    return { r with pending := some ⟨a, some word⟩, operands }

/-- Takes the value that an option waits for, or else an operand. -/
def takePlain (r : Reading) (word : String) : Except Stop Reading :=
  match r.pending with
  | some ⟨a, none⟩ => .ok { r with pending := some ⟨a, some word⟩ }
  | _ => r.takeOperand word

/-- Takes a word that is no name of a command. -/
def take (r : Reading) (word : String) : Except Stop Reading :=
  if r.separated then r.takeOperand word
  else
    match Word.ofString word with
    | .separator => .ok { r with separated := true }
    | .long name value => r.takeLong name value
    | .letters cs => takeLetters cs r
    | .plain => r.takePlain word

/-- Where the words behind the command for help lead. -/
def helpFor : CommandForm → List String → Stop
  | _, [] => .help
  | form, word :: rest =>
    match form.member? word with
    | some f => helpFor f rest
    | none =>
      if form.knows word ∧ rest = [] then .help else .usage .unknownCommand

/-- The command of which all words have been read. A group has none. -/
def finish (r : Reading) : Except UsageError Invocation := do
  let r ← r.settle
  match r.form with
  | .group .. => throw (if r.given.flags = {} then .silence else .missingCommand)
  | .command _ _ _ build =>
    r.given.checkConflict
    match build r.given with
    | some command => return { flags := r.given.flags, command }
    | none => throw .missingArgument

/-- The invocation of a command in a group, with the flags that the group was given. -/
def enclose (r : Reading) (i : Invocation) : Except UsageError Invocation := do
  let r ← r.settle
  r.given.checkConflict
  return { i with flags := i.flags.join r.given.flags }

/-- Reads words. -/
def read : List String → Reading → Except Stop Invocation
  | [], r => orStop r.finish
  | word :: rest, r =>
    if r.separated ∨ r.awaits ∨ !r.form.knows word then do read rest (← r.take word)
    else
      match r.form.member? word with
      | some form => do
        let i ← read rest (start (r.title ++ "-" ++ form.name) form)
        orStop (r.enclose i)
      | none => .error (helpFor r.form rest)

end Reading

/-- The invocation that the words of a command line ask for. -/
def Invocation.ofWords (words : List String) : Except Stop Invocation :=
  (Reading.start CommandForm.program.name .program).read words

end FleetReconciler
