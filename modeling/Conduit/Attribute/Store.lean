import Conduit.Attribute.Registry

/-!
# Attribute stores

A store keeps the attribute values of one object. It belongs to a registry, whose attributes are
addressed by their slots, or to none; the attributes of all other registries are addressed by name.
A value made by a factory is stored as if it had been set, so a factory runs at most once until the
value is removed or the store cleared. A store may be handed on, but is never shared.
-/

namespace Conduit

/-- How the factories make their values. -/
abbrev Factories (W : Type) :=
  (kind : ValueKind) → FactoryRef → StateM W kind.Carrier

/-- Attribute values. -/
structure AttributeStore where
  /-- The number of the registry whose attributes are kept by slot. -/
  registry : Option Nat
  /-- The slots; there may be fewer than the registry has given out. -/
  slots : List (Option StoredValue)
  /-- The slots that hold a value, each once. -/
  occupied : List Nat
  /-- The values that are kept by name. -/
  named : List (String × StoredValue)
  deriving Inhabited

namespace AttributeStore

variable {W : Type} {kind : ValueKind}

/-- An empty store for a registry, with the slots given out so far. -/
def new (registry : Registry) : AttributeStore :=
  ⟨some registry.id, List.replicate registry.length none, [], []⟩

/-- An empty store that belongs to no registry. -/
def detached : AttributeStore :=
  ⟨none, [], [], []⟩

/-- The number of values. -/
def length (store : AttributeStore) : Nat :=
  store.occupied.length + store.named.length

/-- Whether the attribute is addressed by its slot. -/
def owns (store : AttributeStore) (a : Attribute kind) : Bool :=
  store.registry == some a.registry

/-- What is stored at the address of an attribute. -/
def stored? (store : AttributeStore) (a : Attribute kind) : Option StoredValue :=
  if store.owns a then (store.slots[a.index]?).join
  else store.named.lookup a.name

/-- The stored value of an attribute. -/
def value? (store : AttributeStore) (a : Attribute kind) : Option kind.Carrier :=
  (store.stored? a).bind (StoredValue.as? kind)

/-- Whether something is stored for an attribute. -/
def isSet (store : AttributeStore) (a : Attribute kind) : Bool :=
  (store.stored? a).isSome

/-- The value of an attribute, or its fixed default. No factory is run. -/
def peek (store : AttributeStore) (a : Attribute kind) : Option kind.Carrier :=
  (store.value? a).or a.defaultValue?

/-- Replaces the value under a name. -/
def putNamed (named : List (String × StoredValue)) (name : String) (value : StoredValue) :
    List (String × StoredValue) :=
  (name, value) :: named.filter fun e ↦ e.1 ≠ name

/-- The store with a value at the address of an attribute. -/
def put (store : AttributeStore) (a : Attribute kind) (value : kind.Carrier) : AttributeStore :=
  if store.owns a then
    let slots := store.slots ++ List.replicate (a.index + 1 - store.slots.length) none
    { store with
      slots := slots.set a.index (some ⟨kind, value⟩)
      occupied := if store.isSet a then store.occupied else store.occupied ++ [a.index] }
  else { store with named := putNamed store.named a.name ⟨kind, value⟩ }

/-- Stores a value, and gives the stored value that it replaces. -/
def set (store : AttributeStore) (a : Attribute kind) (value : kind.Carrier) :
    Option kind.Carrier × AttributeStore :=
  (store.value? a, store.put a value)

/-- The filled slots without one of them, whose place in the list the last one takes. -/
def vacate (occupied : List Nat) (index : Nat) : List Nat :=
  match occupied.idxOf? index, occupied.getLast? with
  | some position, some last => (occupied.set position last).dropLast
  | _, _ => occupied

/-- The store with nothing at the address of an attribute. -/
def erase (store : AttributeStore) (a : Attribute kind) : AttributeStore :=
  if store.owns a then
    { store with
      slots := store.slots.set a.index none
      occupied := vacate store.occupied a.index }
  else { store with named := store.named.filter fun e ↦ e.1 ≠ a.name }

/-- Removes what is stored for an attribute, and gives its value. -/
def remove (store : AttributeStore) (a : Attribute kind) :
    Option kind.Carrier × AttributeStore :=
  (store.value? a, store.erase a)

/-- Stores the value that the factory of an attribute makes, if it has one and nothing is stored. -/
def materialize (factories : Factories W) (store : AttributeStore) (a : Attribute kind) :
    StateM W AttributeStore :=
  match a.default with
  | .factory make =>
    if store.isSet a then pure store
    else do return store.put a (← factories kind make)
  | _ => pure store

/-- The value of an attribute, which may be made now, or its fixed default. -/
def get (factories : Factories W) (store : AttributeStore) (a : Attribute kind) :
    StateM W (Option kind.Carrier × AttributeStore) := do
  let store ← store.materialize factories a
  return (store.peek a, store)

/-- Changes the stored value of an attribute, which may be made now, and gives the value before. A
fixed default is not changed. -/
def modify (factories : Factories W) (store : AttributeStore) (a : Attribute kind)
    (change : kind.Carrier → kind.Carrier) :
    StateM W (Option kind.Carrier × AttributeStore) := do
  let store ← store.materialize factories a
  match store.value? a with
  | some value => return (some value, store.put a (change value))
  | none => return (none, store)

/-- Drops every value and keeps the slots. -/
def clear (store : AttributeStore) : AttributeStore :=
  { store with
    slots := store.occupied.foldl (fun slots index ↦ slots.set index none) store.slots
    occupied := []
    named := [] }

/-- The inspection text of a store. -/
def inspect (store : AttributeStore) : String :=
  Text.inspectRecord "AttributeHolder"
    [("registry", Text.inspectOption (store.registry.map toString)),
      ("capacity", toString store.slots.length), ("len", toString store.length)]

end AttributeStore

end Conduit
