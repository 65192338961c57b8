import FleetReconciler.Record.Basic

/-!
# Drained groups

A manager is drained when its revision lists it as drained, or when its template lists its revision.

* `isDrained` — the rule for one manager with its revision and its template;
* `drainedManagers` — all drained managers of a collection of records. A listed entry counts only
  where the record that lists it is its parent.
-/

namespace FleetReconciler

/-- Whether a manager is drained by its revision or by its template. -/
def isDrained (manager : ManagerKey) (revision : Revision) (template : Template) : Bool :=
  manager ∈ revision.drained ∨ revision.key ∈ template.drained

/-- The managers that their own revision lists as drained. -/
def drainedByRevision (revisions : List Revision) : List ManagerKey :=
  revisions.flatMap fun r => r.drained.toList.filter fun m => m.parent = r.key

/-- The revisions that their own template lists as drained. -/
def drainedRevisions (templates : List Template) : List RevisionKey :=
  templates.flatMap fun t => t.drained.toList.filter fun r => r.parent = t.key

/-- The managers whose revision is drained. -/
def drainedByTemplate (templates : List Template) (managers : List Manager) : List ManagerKey :=
  (managers.filter fun m => m.key.parent ∈ drainedRevisions templates).map Manager.key

/-- All drained managers. -/
def drainedManagers (templates : List Template) (revisions : List Revision)
    (managers : List Manager) : KeySet ManagerKey :=
  .ofList (drainedByRevision revisions ++ drainedByTemplate templates managers)

end FleetReconciler
