import FleetReconciler.Key.Basic

/-!
# Reading keys

A key text is split into words at blanks; it is a key of a kind when the number of words is the
number of components of the kind. How many blanks stand between, before and after the words does not
matter.

* `EntityKey.parse` — the key of a text;
* `EntityKey.build` — the key of given components, each of which is checked in order;
* `TemplateKey.named`, `RevisionKey.named`, `ManagerKey.named`, `InstanceKey.named` — the key of given
  components, one kind after the other.
-/

namespace FleetReconciler.EntityKey

variable {κ : Type} [EntityKey κ]

/-- The key of given texts, one a component. The first text that is no component is the error. -/
def build (raw : String) (parts : List String) : Except KeyError κ := do
  let components ← parts.mapM Component.ofString
  match ofComponents? components with
  | some k => return k
  | none => throw (.wrongArity (kind κ) parts.length raw)

/-- The key of a text. -/
def parse (s : String) : Except KeyError κ :=
  let parts := Text.wordsOf s
  if parts.length = (kind κ).arity then build s parts
  else .error (.wrongArity (kind κ) parts.length s)

end FleetReconciler.EntityKey

namespace FleetReconciler

/-! ## Keys one component at a time -/

/-- The key of the template that has a given name. -/
def TemplateKey.named (baseName : String) : Except KeyError TemplateKey := do
  return ⟨← Component.ofString baseName⟩

/-- The key of the revision of this template that has a given name. -/
def TemplateKey.revisionNamed (k : TemplateKey) (revision : String) : Except KeyError RevisionKey := do
  return ⟨k, ← Component.ofString revision⟩

/-- The key of the manager of this revision in a given zone. -/
def RevisionKey.managerIn (k : RevisionKey) (zone : String) : Except KeyError ManagerKey := do
  return ⟨k, ← Component.ofString zone⟩

/-- The key of the instance of this manager that has a given name. -/
def ManagerKey.instanceNamed (k : ManagerKey) (name : String) : Except KeyError InstanceKey := do
  return ⟨k, ← Component.ofString name⟩

/-- The key of a revision from its components. -/
def RevisionKey.named (baseName revision : String) : Except KeyError RevisionKey := do
  (← TemplateKey.named baseName).revisionNamed revision

/-- The key of a manager from its components. -/
def ManagerKey.named (baseName revision zone : String) : Except KeyError ManagerKey := do
  (← RevisionKey.named baseName revision).managerIn zone

/-- The key of an instance from its components. -/
def InstanceKey.named (baseName revision zone name : String) : Except KeyError InstanceKey := do
  (← ManagerKey.named baseName revision zone).instanceNamed name

end FleetReconciler
