import FleetReconciler.Key.Reader

/-!
# Tasks

A task is a piece of work on one record that is queued and carried out later, at least once.
-/

namespace FleetReconciler

/-- What can be queued. -/
inductive Task where
  /-- List the instances of a group and make sure that each has a record. -/
  | fetchInstances (manager : ManagerKey)
  /-- Delete an instance that is marked for deletion. -/
  | deletePending (key : InstanceKey)
  /-- Delete an instance whose group is drained. -/
  | deleteDrained (key : InstanceKey)
  deriving DecidableEq, Repr

namespace Task

/-- The name of the handler of a task. -/
def handler : Task → String
  | .fetchInstances _ => "fetch-instances"
  | .deletePending _ => "delete-instance-pending-deletion"
  | .deleteDrained _ => "delete-drained-instance"

/-- The text of the key of the record that a task works on. -/
def keyText : Task → String
  | .fetchInstances k => EntityKey.text k
  | .deletePending k | .deleteDrained k => EntityKey.text k

/-- The text of a task: its handler with the key in parentheses. -/
def text (t : Task) : String := t.handler ++ "(" ++ t.keyText ++ ")"

/-- The task of a handler name and a key text; none if there is no such handler. -/
def ofHandler? (handler key : String) : Option (Except KeyError Task) :=
  if handler = "fetch-instances" then some ((EntityKey.parse key).map .fetchInstances)
  else if handler = "delete-instance-pending-deletion" then
    some ((EntityKey.parse key).map .deletePending)
  else if handler = "delete-drained-instance" then
    some ((EntityKey.parse key).map .deleteDrained)
  else none

end Task

end FleetReconciler
