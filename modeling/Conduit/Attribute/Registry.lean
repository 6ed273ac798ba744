import Conduit.Attribute.Error
import Conduit.Attribute.Value
import Conduit.Text.Inspect

/-!
# Attribute registries

A registry gives each declared name a slot. Slots are numbered in the order of the declarations and
never reused; declaring a name again gives the slot and the default of its first declaration, and is
refused when the kind differs. A new name is refused once all slots are taken. What was declared is
kept slot by slot; a table of its own says which slot a name has.
-/

namespace Conduit

/-- What an attribute is worth while nothing is stored for it. -/
inductive AttributeDefault (kind : ValueKind) where
  /-- Nothing. -/
  | absent
  /-- Always the same value, which is not stored. -/
  | value (v : kind.Carrier)
  /-- A value that is made, and stored, when it is first asked for. -/
  | factory (make : FactoryRef)
  deriving Inhabited

/-- A handle of an attribute. -/
structure Attribute (kind : ValueKind) where
  /-- The slot. -/
  index : Nat
  /-- The declared name. -/
  name : String
  /-- The number of the registry that declared it. -/
  registry : Nat
  /-- The default. -/
  default : AttributeDefault kind
  deriving Inhabited

namespace Attribute

variable {kind : ValueKind}

/-- The fixed default value, if there is one. -/
def defaultValue? (a : Attribute kind) : Option kind.Carrier :=
  match a.default with
  | .value v => some v
  | _ => none

/-- Whether the default is made by a factory. -/
def hasFactory (a : Attribute kind) : Bool :=
  match a.default with
  | .factory _ => true
  | _ => false

/-- The inspection text of a handle. -/
def inspect (a : Attribute kind) : String :=
  Text.inspectRecord "Attribute"
    [("index", toString a.index), ("name", Text.quote a.name),
      ("registry", toString a.registry), ("type", Text.quote kind.name)]

end Attribute

/-- What a registry knows of a declared name. -/
structure Descriptor where
  /-- The slot. -/
  index : Nat
  /-- The name. -/
  name : String
  /-- The kind of its values. -/
  kind : ValueKind
  /-- The default of the first declaration. -/
  default : AttributeDefault kind

namespace Descriptor

/-- The handle of the described attribute in a registry. -/
def handle (d : Descriptor) (registry : Nat) : Attribute d.kind :=
  ⟨d.index, d.name, registry, d.default⟩

/-- The handle with a requested kind, when that is the declared one. -/
def handleOf? (d : Descriptor) (registry : Nat) (kind : ValueKind) : Option (Attribute kind) :=
  if h : d.kind = kind then some (h ▸ d.handle registry) else none

/-- The inspection text of a descriptor. -/
def inspect (d : Descriptor) : String :=
  Text.inspectRecord "AttributeDescriptor"
    [("index", toString d.index), ("name", Text.quote d.name), ("type", Text.quote d.kind.name)]

end Descriptor

/-- Declared names and their slots. -/
structure Registry where
  /-- The number of the registry. -/
  id : Nat
  /-- The number of slots it may give out. -/
  slotLimit : Nat
  /-- The slot of each declared name. -/
  byName : List (String × Nat)
  /-- What was declared, slot by slot. -/
  slots : List Descriptor
  deriving Inhabited

namespace Registry

/-- A registry without declarations. -/
def new (id : Nat) (slotLimit : Nat) : Registry :=
  ⟨id, slotLimit, [], []⟩

/-- The number of slots that are taken. -/
def length (registry : Registry) : Nat :=
  registry.slots.length

/-- What is known of a slot. -/
def descriptor? (registry : Registry) (index : Nat) : Option Descriptor :=
  registry.slots[index]?

/-- What is known of a name: the table of names leads to its slot. -/
def resolve? (registry : Registry) (name : String) : Option Descriptor :=
  (registry.byName.lookup name).bind registry.descriptor?

/-- The handle of a name, when it is declared with the given kind. -/
def resolveAs? (registry : Registry) (kind : ValueKind) (name : String) :
    Option (Attribute kind) := do
  (← registry.resolve? name).handleOf? registry.id kind

/-- The handle of a described attribute with the requested kind, or why there is none. -/
def typedHandle (registry : Registry) (d : Descriptor) (kind : ValueKind) :
    Except AttributeError (Attribute kind) :=
  match d.handleOf? registry.id kind with
  | some a => .ok a
  | none => .error (.typeMismatch d.name d.kind.name kind.name)

/-- The registry with one more slot, which is entered under its name. -/
def add {kind : ValueKind} (registry : Registry) (name : String) (default : AttributeDefault kind) :
    Registry :=
  { registry with
    slots := registry.slots ++ [⟨registry.length, name, kind, default⟩]
    byName := (name, registry.length) :: registry.byName }

/-- The part of a declaration that has the registry for itself. The name may have been declared since
it was last looked up, so it is looked up again. -/
def allocate {kind : ValueKind} (name : String) (default : AttributeDefault kind) :
    StateM Registry (Except AttributeError (Attribute kind)) := do
  let registry ← get
  match registry.resolve? name with
  | some d => return registry.typedHandle d kind
  | none =>
    if registry.slotLimit ≤ registry.length then
      return .error (.slotsExhausted name registry.slotLimit)
    set (registry.add name default)
    return .ok ⟨registry.length, name, registry.id, default⟩

/-- Declares an attribute, or finds it declared. -/
def declare {kind : ValueKind} (name : String) (default : AttributeDefault kind) :
    StateM Registry (Except AttributeError (Attribute kind)) := do
  let registry ← get
  match registry.resolve? name with
  | some d => return registry.typedHandle d kind
  | none => allocate name default

/-- The inspection text of a registry. -/
def inspect (registry : Registry) : String :=
  Text.inspectRecord "AttributeRegistry"
    [("id", toString registry.id), ("len", toString registry.length),
      ("slot_limit", toString registry.slotLimit)]

end Registry

end Conduit
