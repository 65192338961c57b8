import FleetReconciler.Text.Blank
import FleetReconciler.Decimal.Digits

/-!
# Keys

A template has revisions, a revision has an instance group manager per zone, a manager has
instances. The key of each names its parent and one more component. A component is a non-empty text
without blanks, so the components joined by single spaces determine the key.

* `Component.ofString` — the component of a text, or `KeyError.invalidComponent`;
* `TemplateKey`, `RevisionKey`, `ManagerKey`, `InstanceKey` — the four keys;
* `EntityKey` — what the four have in common: their components in order and back.
-/

namespace FleetReconciler

/-- The four kinds of records, each of which has keys of its own. -/
inductive Kind where
  | template
  | revision
  | manager
  | machine
  deriving DecidableEq, Repr

/-- The word for a key of a kind. -/
def Kind.label : Kind → String
  | .template => "template"
  | .revision => "revision"
  | .manager => "manager"
  | .machine => "instance"

/-- The number of components of a key of a kind. -/
def Kind.arity : Kind → Nat
  | .template => 1
  | .revision => 2
  | .manager => 3
  | .machine => 4

/-- The name under which the store files the records of a kind. -/
def Kind.name : Kind → String
  | .template => "InstanceTemplate"
  | .revision => "InstanceTemplateRevision"
  | .manager => "InstanceGroupManager"
  | .machine => "Instance"

/-- Why a text is no component or no key. -/
inductive KeyError where
  /-- A component is empty or holds a blank. -/
  | invalidComponent (text : String)
  /-- A key text has `found` words where its kind has another number of components. -/
  | wrongArity (kind : Kind) (found : Nat) (raw : String)
  deriving DecidableEq, Repr

/-- The wording of a key error. -/
def KeyError.message : KeyError → String
  | .invalidComponent text =>
    "invalid key component '" ++ text ++ "': must be non-empty and contain no whitespace"
  | .wrongArity kind found raw =>
    kind.label ++ " key needs " ++ Decimal.text kind.arity ++
      " space-separated components, got " ++ Decimal.text found ++ ": '" ++ raw ++ "'"

/-! ## Components -/

/-- A text that can stand in a key: not empty and without blanks. -/
def IsComponent (s : String) : Prop := s ≠ "" ∧ s.toList.all (fun c => !Text.isBlank c) = true

instance (s : String) : Decidable (IsComponent s) := by unfold IsComponent; infer_instance

/-- One component of a key. -/
structure Component where
  text : String
  isComponent : IsComponent text
  deriving DecidableEq

instance : Repr Component := ⟨fun c n => reprPrec c.text n⟩

/-- The component of a text. -/
def Component.ofString (s : String) : Except KeyError Component :=
  if h : IsComponent s then .ok ⟨s, h⟩ else .error (.invalidComponent s)

/-! ## The four keys -/

/-- The key of a template: its base name. -/
structure TemplateKey where
  baseName : Component
  deriving DecidableEq, Repr

/-- The key of a revision of a template. -/
structure RevisionKey where
  parent : TemplateKey
  revision : Component
  deriving DecidableEq, Repr

/-- The key of the instance group manager of a revision in a zone. -/
structure ManagerKey where
  parent : RevisionKey
  zone : Component
  deriving DecidableEq, Repr

/-- The key of an instance of a manager. -/
structure InstanceKey where
  parent : ManagerKey
  name : Component
  deriving DecidableEq, Repr

/-- A key that is determined by its components. -/
class EntityKey (κ : Type) where
  /-- The kind of the records that have these keys. -/
  kind : Kind
  /-- The components from the base name on. -/
  components : κ → List Component
  /-- The key of a list of as many components as the kind has. -/
  ofComponents? : List Component → Option κ

instance : EntityKey TemplateKey where
  kind := .template
  components k := [k.baseName]
  ofComponents?
    | [b] => some ⟨b⟩
    | _ => none

instance : EntityKey RevisionKey where
  kind := .revision
  components k := [k.parent.baseName, k.revision]
  ofComponents?
    | [b, r] => some ⟨⟨b⟩, r⟩
    | _ => none

instance : EntityKey ManagerKey where
  kind := .manager
  components k := [k.parent.parent.baseName, k.parent.revision, k.zone]
  ofComponents?
    | [b, r, z] => some ⟨⟨⟨b⟩, r⟩, z⟩
    | _ => none

instance : EntityKey InstanceKey where
  kind := .machine
  components k :=
    [k.parent.parent.parent.baseName, k.parent.parent.revision, k.parent.zone, k.name]
  ofComponents?
    | [b, r, z, n] => some ⟨⟨⟨⟨b⟩, r⟩, z⟩, n⟩
    | _ => none

namespace EntityKey

variable {κ : Type} [EntityKey κ]

/-- The texts of the components. -/
def texts (k : κ) : List String := (components k).map Component.text

/-- The text of a key: its components joined by single spaces. The store files a record under it. -/
def text (k : κ) : String :=
  Text.joinWith " " (texts k)

/-- The order of keys: component by component, not that of their texts. -/
def before (a b : κ) : Bool := decide (texts a < texts b)

end EntityKey

/-! ## Parts of keys -/

namespace RevisionKey

/-- The base name of the template. -/
def baseName (k : RevisionKey) : Component := k.parent.baseName

end RevisionKey

namespace ManagerKey

/-- The base name of the template. -/
def baseName (k : ManagerKey) : Component := k.parent.baseName

/-- The name of the revision. -/
def revision (k : ManagerKey) : Component := k.parent.revision

/-- The name of the cloud instance group of a manager. -/
def groupName (k : ManagerKey) : String := k.baseName.text ++ "-" ++ k.revision.text

end ManagerKey

namespace InstanceKey

/-- The name of the cloud instance group that holds the instance. -/
def groupName (k : InstanceKey) : String := k.parent.groupName

end InstanceKey

end FleetReconciler
