import FleetReconciler.FileTree
import FleetReconciler.Settings.Yaml

/-!
# The settings file
-/

namespace FleetReconciler.Settings

/-- The settings of the text of a settings file. A blank text says nothing. -/
def ofFileText? (text : String) : Option Settings :=
  if Text.isAllBlank text then some {} else ofYaml? text

/-- Loads and checks the settings at a path. Where there is no file, the defaults hold. -/
def load (path : String) (files : FileTree) : Except Failure Settings := do
  let settings ←
    if files.contains path then do
      let text ← inContext (.readingSettings path)
        ((files.readText path).mapError fun e => .of (.file e))
      match ofFileText? text with
      | some s => pure s
      | none => throw ((Failure.of .malformed).within (.parsingSettings path))
    else pure {}
  inContext (.checkingSettings path) (settings.validate.mapError fun e => .of (.setting e))
  return settings

end FleetReconciler.Settings
