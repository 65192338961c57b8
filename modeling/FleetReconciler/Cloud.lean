import FleetReconciler.Service

/-!
# Access to the compute API

What answers the calls of a service, over a state of its own.

* `Cloud` — the two calls, and how many pages a listing may still have;
* `CloudScript` — prepared answers, used up one a call.
-/

namespace FleetReconciler

/-- What answers calls, over a state `κ`. -/
structure Cloud (κ : Type) where
  list : ListCall → κ → Except ComputeError InstancePage × κ
  delete : DeleteCall → κ → Except ComputeError Operation × κ
  /-- A bound on the number of pages of the next listing. -/
  pageBudget : κ → Nat

/-- Prepared answers. -/
structure CloudScript where
  list : List (Except ComputeError InstancePage) := []
  delete : List (Except ComputeError Operation) := []

namespace CloudScript

/-- The operation that answers when no answer is left. -/
def doneOperation : Operation := { status := "DONE" }

/-- The first of some answers with the rest; the default where none is left. -/
def take {α : Type} (default : α) : List α → α × List α
  | [] => (default, [])
  | a :: rest => (a, rest)

/-- Answers from the script. When it is used up, pages are empty and operations are done, so a
listing ends with the script. -/
def cloud : Cloud CloudScript where
  list _ s :=
    let (answer, rest) := take (.ok {}) s.list
    (answer, { s with list := rest })
  delete _ s :=
    let (answer, rest) := take (.ok doneOperation) s.delete
    (answer, { s with delete := rest })
  pageBudget s := s.list.length + 1

end CloudScript

end FleetReconciler
