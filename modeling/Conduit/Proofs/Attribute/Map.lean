import Conduit.Proofs.Attribute.Sound
import Mathlib.Data.Finmap

/-!
# Attribute stores as finite maps

To whoever uses it, a store is a finite map. Attributes of its own registry are keyed by their slots,
all others by their names (`AttributeKey`), and the operations are those of a map (`AttributeMap`);
slots that were provided for, and the list of the filled ones, do not show. `Represents` says which map
a store stands for, and that its parts agree with each other; there is one lemma for each change.
-/

namespace Conduit

/-! ### Operations -/

/-- An operation on a store. -/
inductive StoreOp where
  | get {kind : ValueKind} (a : Attribute kind)
  | peek {kind : ValueKind} (a : Attribute kind)
  | modify {kind : ValueKind} (a : Attribute kind) (change : kind.Carrier → kind.Carrier)
  | set {kind : ValueKind} (a : Attribute kind) (value : kind.Carrier)
  | remove {kind : ValueKind} (a : Attribute kind)
  | isSet {kind : ValueKind} (a : Attribute kind)
  | length
  | clear

/-- What an operation on a store answers. -/
inductive StoreAnswer where
  | value (found : Option StoredValue)
  | flag (isSet : Bool)
  | count (n : Nat)
  | done

/-- A value of a known kind, at rest. -/
def StoredValue.ofKind {kind : ValueKind} (value : Option kind.Carrier) : Option StoredValue :=
  value.map fun v ↦ ⟨kind, v⟩

namespace StoreOp

/-- The handle by which an operation names an attribute. -/
def handle? : StoreOp → Option ((kind : ValueKind) × Attribute kind)
  | get a | peek a | modify a _ | set a _ | remove a | isSet a => some ⟨_, a⟩
  | length | clear => none

/-- Carries out an operation on a store. -/
def perform {W : Type} (factories : Factories W) (store : AttributeStore) :
    StoreOp → StateM W (StoreAnswer × AttributeStore)
  | get a => do
    let (value, store) ← store.get factories a
    return (.value (StoredValue.ofKind value), store)
  | peek a => return (.value (StoredValue.ofKind (store.peek a)), store)
  | modify a change => do
    let (value, store) ← store.modify factories a change
    return (.value (StoredValue.ofKind value), store)
  | set a value => return (.value (StoredValue.ofKind (store.set a value).1), (store.set a value).2)
  | remove a => return (.value (StoredValue.ofKind (store.remove a).1), (store.remove a).2)
  | isSet a => return (.flag (store.isSet a), store)
  | length => return (.count store.length, store)
  | clear => return (.done, store.clear)

end StoreOp

/-- Factories of which each always makes the same value. -/
abbrev FactoryValues :=
  (kind : ValueKind) → FactoryRef → kind.Carrier

namespace FactoryValues

/-- The factories that make these values. -/
def factories (values : FactoryValues) (W : Type) : Factories W :=
  fun kind make ↦ pure (values kind make)

/-- One value of each kind. -/
def plain : FactoryValues
  | .unsigned64, _ => 0
  | .signed32, _ => 0
  | .boolean, _ => false
  | .text, _ => ""
  | .bytes, _ => []
  | .frame, _ => .text ""
  | .session, _ => ⟨0⟩
  | .cacheSlot _, _ => ()
  | .foreign _, _ => ⟨0⟩

end FactoryValues

/-! ### Maps -/

/-- What a value is kept under. -/
inductive AttributeKey where
  /-- The slot of an attribute of the own registry. -/
  | slot (index : Nat)
  /-- The name of any other attribute. -/
  | name (name : String)
  deriving DecidableEq

/-- The key of an attribute in a store that belongs to the given registry, or to none. -/
def AttributeKey.of (registry : Option Nat) {kind : ValueKind} (a : Attribute kind) : AttributeKey :=
  if registry = some a.registry then .slot a.index else .name a.name

/-- Values under their keys. -/
abbrev AttributeMap :=
  Finmap fun _ : AttributeKey ↦ StoredValue

/-- The value with a change that applies to one kind. -/
def StoredValue.change {kind : ValueKind} (f : kind.Carrier → kind.Carrier) (stored : StoredValue) :
    StoredValue :=
  match stored.as? kind with
  | some value => ⟨kind, f value⟩
  | none => stored

namespace AttributeMap

variable {W : Type} {kind : ValueKind}

/-- Puts the value that the factory of an attribute makes under a key, if the attribute has one and the
key is absent. -/
def materialize (factories : Factories W) (map : AttributeMap) (key : AttributeKey)
    (a : Attribute kind) : StateM W AttributeMap :=
  match a.default with
  | .factory make =>
    if key ∈ map then pure map
    else do return map.insert key ⟨kind, ← factories kind make⟩
  | _ => pure map

/-- Carries out an operation on a map. -/
def perform (factories : Factories W) (registry : Option Nat) (map : AttributeMap) :
    StoreOp → StateM W (StoreAnswer × AttributeMap)
  | .get a => do
    let key := AttributeKey.of registry a
    let map ← map.materialize factories key a
    return (.value ((map.lookup key).or (StoredValue.ofKind a.defaultValue?)), map)
  | .peek a =>
    return (.value ((map.lookup (.of registry a)).or (StoredValue.ofKind a.defaultValue?)), map)
  | .modify a change => do
    let key := AttributeKey.of registry a
    let map ← map.materialize factories key a
    match map.lookup key with
    | some stored => return (.value (some stored), map.insert key (stored.change change))
    | none => return (.value none, map)
  | .set a value =>
    return (.value (map.lookup (.of registry a)), map.insert (.of registry a) ⟨_, value⟩)
  | .remove a => return (.value (map.lookup (.of registry a)), map.erase (.of registry a))
  | .isSet a => return (.flag (decide (.of registry a ∈ map)), map)
  | .length => return (.count map.keys.card, map)
  | .clear => return (.done, ∅)

end AttributeMap

/-! ### Stores that stand for maps -/

namespace AttributeStore

variable {W : Type} {kind : ValueKind} {store : AttributeStore} {map : AttributeMap}

/-- A store holds the values of a map: in its slots, with the filled ones listed once, and under names
that are listed once. -/
structure Represents (store : AttributeStore) (map : AttributeMap) : Prop where
  sound : store.Sound
  names : (store.named.map Prod.fst).Nodup
  slot : ∀ index, map.lookup (.slot index) = slotValue? store.slots index
  name : ∀ name, map.lookup (.name name) = store.named.lookup name

/-- The key of an attribute in a store. -/
abbrev keyOf (store : AttributeStore) (a : Attribute kind) : AttributeKey :=
  .of store.registry a

theorem keyOf_of_owns {a : Attribute kind} (h : store.owns a = true) :
    store.keyOf a = .slot a.index :=
  if_pos (beq_iff_eq.1 h)

theorem keyOf_of_not_owns {a : Attribute kind} (h : ¬store.owns a = true) :
    store.keyOf a = .name a.name :=
  if_neg fun heq ↦ h (beq_iff_eq.2 heq)

theorem put_registry (store : AttributeStore) (a : Attribute kind) (value : kind.Carrier) :
    (store.put a value).registry = store.registry := by
  rw [AttributeStore.put]
  split <;> rfl

theorem erase_registry (store : AttributeStore) (a : Attribute kind) :
    (store.erase a).registry = store.registry := by
  rw [AttributeStore.erase]
  split <;> rfl

/-! ### Lists of named values -/

theorem lookup_putNamed_self (named : List (String × StoredValue)) (name : String)
    (value : StoredValue) : (putNamed named name value).lookup name = some value := by
  rw [putNamed, List.lookup_cons_self]

theorem lookup_filter_ne {named : List (String × StoredValue)} {name other : String}
    (h : other ≠ name) : (named.filter fun e ↦ e.1 ≠ name).lookup other = named.lookup other := by
  induction named with
  | nil => rfl
  | cons entry rest ih =>
    obtain ⟨key, value⟩ := entry
    by_cases hkey : key = name
    · subst hkey
      rw [List.filter_cons_of_neg (by simp), ih, List.lookup_cons, beq_eq_false_iff_ne.2 h]
    · rw [List.filter_cons_of_pos (by simpa using hkey), List.lookup_cons, List.lookup_cons, ih]

theorem lookup_putNamed_ne {named : List (String × StoredValue)} {name other : String}
    (h : other ≠ name) (value : StoredValue) :
    (putNamed named name value).lookup other = named.lookup other := by
  rw [putNamed, List.lookup_cons, beq_eq_false_iff_ne.2 h]
  exact lookup_filter_ne h

theorem nodup_filter_names {named : List (String × StoredValue)}
    (h : (named.map Prod.fst).Nodup) (p : String × StoredValue → Bool) :
    ((named.filter p).map Prod.fst).Nodup :=
  h.sublist (List.filter_sublist.map _)

theorem nodup_putNamed {named : List (String × StoredValue)} (h : (named.map Prod.fst).Nodup)
    (name : String) (value : StoredValue) : ((putNamed named name value).map Prod.fst).Nodup := by
  refine List.nodup_cons.2 ⟨fun hmem ↦ ?_, nodup_filter_names h _⟩
  obtain ⟨entry, hentry, hname⟩ := List.mem_map.1 hmem
  have hne := (List.mem_filter.1 hentry).2
  exact absurd hname (by simpa using hne)

theorem mem_names_iff {named : List (String × StoredValue)} {name : String} :
    name ∈ named.map Prod.fst ↔ (named.lookup name).isSome := by
  rw [← Option.ne_none_iff_isSome, Ne, List.lookup_eq_none_iff_not_mem, not_not]

/-! ### Reading -/

namespace Represents

/-- What is stored is what the map has under the key. -/
theorem stored?_eq (h : store.Represents map) (a : Attribute kind) :
    store.stored? a = map.lookup (store.keyOf a) := by
  by_cases howns : store.owns a = true
  · rw [stored?, if_pos howns, keyOf_of_owns howns, h.slot, slotValue?]
  · rw [stored?, if_neg howns, keyOf_of_not_owns howns, h.name]

/-- What is read is what the map has under the key, if it is of the kind of the attribute. -/
theorem value?_eq (h : store.Represents map) (a : Attribute kind) :
    store.value? a = (map.lookup (store.keyOf a)).bind (StoredValue.as? kind) := by
  rw [value?, h.stored?_eq]

/-- What is set is what the map has, of whatever kind. -/
theorem isSet_iff (h : store.Represents map) (a : Attribute kind) :
    store.isSet a = true ↔ store.keyOf a ∈ map := by
  rw [isSet, h.stored?_eq, Finmap.lookup_isSome]

/-- The number of values is the number of keys. -/
theorem length_eq (h : store.Represents map) : store.length = map.keys.card := by
  have hkeys : map.keys =
      (store.occupied.map AttributeKey.slot ++
        (store.named.map Prod.fst).map AttributeKey.name).toFinset := by
    ext key
    rw [Finmap.mem_keys, ← Finmap.lookup_isSome, List.mem_toFinset, List.mem_append]
    cases key with
    | slot index =>
      rw [h.slot, ← h.sound.mem_occupied]
      simp
    | name name =>
      rw [h.name, ← mem_names_iff]
      simp
  have hnodup : (store.occupied.map AttributeKey.slot ++
      (store.named.map Prod.fst).map AttributeKey.name).Nodup := by
    refine List.nodup_append.2 ⟨h.sound.nodup.map fun _ _ ↦ AttributeKey.slot.inj,
      h.names.map fun _ _ ↦ AttributeKey.name.inj, ?_⟩
    intro slot hslot name hname heq
    obtain ⟨index, -, rfl⟩ := List.mem_map.1 hslot
    obtain ⟨other, -, rfl⟩ := List.mem_map.1 hname
    contradiction
  rw [hkeys, List.toFinset_card_of_nodup hnodup]
  simp [length]

/-- What is to be seen of an attribute is what is kept under its key. -/
theorem seen_eq {store' : AttributeStore} {map' : AttributeMap}
    (h : store.Represents map) (h' : store'.Represents map') (hregistry : store'.registry = store.registry)
    {b : Attribute kind} (hlookup : map'.lookup (store.keyOf b) = map.lookup (store.keyOf b)) :
    store'.isSet b = store.isSet b ∧ store'.peek b = store.peek b := by
  have hkey : store'.keyOf b = store.keyOf b := by rw [keyOf, hregistry]
  have hstored : store'.stored? b = store.stored? b := by
    rw [h.stored?_eq, h'.stored?_eq, hkey, hlookup]
  rw [isSet, isSet, peek, peek, value?, value?, hstored]
  exact ⟨rfl, rfl⟩

/-- Nothing is set in a store that stands for the empty map, and every read gives a default. -/
theorem seen_empty (h : store.Represents ∅) :
    store.length = 0 ∧ ∀ (kind : ValueKind) (b : Attribute kind),
      store.isSet b = false ∧ store.peek b = b.defaultValue? := by
  refine ⟨by rw [h.length_eq, Finmap.keys_empty, Finset.card_empty], fun kind b ↦ ?_⟩
  have hstored : store.stored? b = none := by rw [h.stored?_eq, Finmap.lookup_empty]
  rw [isSet, peek, value?, hstored]
  exact ⟨rfl, rfl⟩

/-! ### Changing -/

theorem of_blank (h : store.Blank) : store.Represents ∅ where
  sound := h.sound
  names := by
    rw [h.named]
    exact List.nodup_nil
  slot index := (h.slots index).symm ▸ rfl
  name name := by
    rw [h.named]
    rfl

/-- **A value is put under its key**, and nothing else is changed. -/
theorem put (h : store.Represents map) (a : Attribute kind) (value : kind.Carrier) :
    (store.put a value).Represents (map.insert (store.keyOf a) ⟨kind, value⟩) := by
  refine ⟨h.sound.put a value, ?_, ?_, ?_⟩
  · rw [AttributeStore.put]
    split
    · exact h.names
    · exact nodup_putNamed h.names _ _
  · intro index
    by_cases howns : store.owns a = true
    · rw [AttributeStore.put, if_pos howns, keyOf_of_owns howns]
      by_cases hindex : a.index = index
      · subst hindex
        rw [Finmap.lookup_insert, slotValue?_set_self (by simp; omega)]
      · rw [Finmap.lookup_insert_of_ne _ (by simpa using Ne.symm hindex), slotValue?_set_ne _ hindex,
          slotValue?_append_replicate, h.slot]
    · rw [AttributeStore.put, if_neg howns, keyOf_of_not_owns howns,
        Finmap.lookup_insert_of_ne _ (by simp), h.slot]
  · intro name
    by_cases howns : store.owns a = true
    · rw [AttributeStore.put, if_pos howns, keyOf_of_owns howns,
        Finmap.lookup_insert_of_ne _ (by simp), h.name]
    · rw [AttributeStore.put, if_neg howns, keyOf_of_not_owns howns]
      by_cases hname : name = a.name
      · subst hname
        rw [Finmap.lookup_insert, lookup_putNamed_self]
      · rw [Finmap.lookup_insert_of_ne _ (by simpa using hname), lookup_putNamed_ne hname, h.name]

/-- **A value is taken from under its key**, and nothing else is changed. -/
theorem erase (h : store.Represents map) (a : Attribute kind) :
    (store.erase a).Represents (map.erase (store.keyOf a)) := by
  refine ⟨h.sound.erase a, ?_, ?_, ?_⟩
  · rw [AttributeStore.erase]
    split
    · exact h.names
    · exact nodup_filter_names h.names _
  · intro index
    by_cases howns : store.owns a = true
    · rw [AttributeStore.erase, if_pos howns, keyOf_of_owns howns]
      by_cases hindex : a.index = index
      · subst hindex
        rw [Finmap.lookup_erase, slotValue?_set_none]
      · rw [Finmap.lookup_erase_ne (by simpa using Ne.symm hindex), slotValue?_set_ne _ hindex, h.slot]
    · rw [AttributeStore.erase, if_neg howns, keyOf_of_not_owns howns,
        Finmap.lookup_erase_ne (by simp), h.slot]
  · intro name
    by_cases howns : store.owns a = true
    · rw [AttributeStore.erase, if_pos howns, keyOf_of_owns howns, Finmap.lookup_erase_ne (by simp),
        h.name]
    · rw [AttributeStore.erase, if_neg howns, keyOf_of_not_owns howns]
      by_cases hname : name = a.name
      · subst hname
        rw [Finmap.lookup_erase, List.lookup_filter_ne_self]
      · rw [Finmap.lookup_erase_ne (by simpa using hname), lookup_filter_ne hname, h.name]

theorem clear (h : store.Represents map) : store.clear.Represents ∅ :=
  of_blank h.sound.blank_clear

end Represents

end AttributeStore

end Conduit
