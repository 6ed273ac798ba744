import Conduit.Proofs.Attribute.Map

/-!
# Stores that cannot be told apart

Two stores of one registry, or of none, that stand for the same map may differ in the slots that they
provide for and in the order in which they keep their values. No operation shows the difference, and every
operation leaves them alike again (`AttributeStore.Alike.perform`). Nothing is asked of the handles here.
No operation changes to which registry a store belongs (`StoreOp.perform_registry`).
-/

namespace Conduit

variable {W : Type} {kind : ValueKind} {store other : AttributeStore}

namespace AttributeStore

/-- Two stores of one registry, or of none, stand for the same map. -/
structure Alike (store other : AttributeStore) : Prop where
  registry_eq : store.registry = other.registry
  same : ∃ map, store.Represents map ∧ other.Represents map

namespace Alike

theorem of_blank (hstore : store.Blank) (hother : other.Blank)
    (hregistry : store.registry = other.registry) : Alike store other :=
  ⟨hregistry, ∅, .of_blank hstore, .of_blank hother⟩

theorem symm (h : Alike store other) : Alike other store := by
  obtain ⟨hregistry, map, hstore, hother⟩ := h
  exact ⟨hregistry.symm, map, hother, hstore⟩

/-! ### Reading -/

/-- Two such stores hold the same under every key. -/
theorem stored?_eq (h : Alike store other) (a : Attribute kind) :
    store.stored? a = other.stored? a := by
  obtain ⟨hregistry, map, hstore, hother⟩ := h
  rw [hstore.stored?_eq, hother.stored?_eq, keyOf, keyOf, hregistry]

theorem value?_eq (h : Alike store other) (a : Attribute kind) :
    store.value? a = other.value? a := by
  rw [value?, value?, h.stored?_eq]

theorem isSet_eq (h : Alike store other) (a : Attribute kind) :
    store.isSet a = other.isSet a := by
  rw [isSet, isSet, h.stored?_eq]

theorem peek_eq (h : Alike store other) (a : Attribute kind) :
    store.peek a = other.peek a := by
  rw [peek, peek, h.value?_eq]

/-- They count the same number of values. -/
theorem length_eq (h : Alike store other) : store.length = other.length := by
  obtain ⟨-, map, hstore, hother⟩ := h
  rw [hstore.length_eq, hother.length_eq]

/-! ### Changing -/

/-- They cannot be told apart either when the same value is put into both. -/
theorem put (h : Alike store other) (a : Attribute kind) (value : kind.Carrier) :
    Alike (store.put a value) (other.put a value) := by
  obtain ⟨hregistry, map, hstore, hother⟩ := h
  refine ⟨by rw [put_registry, put_registry, hregistry], _, hstore.put a value, ?_⟩
  rw [keyOf, hregistry]
  exact hother.put a value

theorem erase (h : Alike store other) (a : Attribute kind) :
    Alike (store.erase a) (other.erase a) := by
  obtain ⟨hregistry, map, hstore, hother⟩ := h
  refine ⟨by rw [erase_registry, erase_registry, hregistry], _, hstore.erase a, ?_⟩
  rw [keyOf, hregistry]
  exact hother.erase a

theorem clear (h : Alike store other) : Alike store.clear other.clear := by
  obtain ⟨hregistry, map, hstore, hother⟩ := h
  exact ⟨hregistry, ∅, hstore.clear, hother.clear⟩

/-- A factory is called on both or on neither, and makes the same for both. -/
theorem materialize (h : Alike store other) (factories : Factories W) (a : Attribute kind)
    (w : W) :
    ∃ made made' w', store.materialize factories a w = (made, w') ∧
      other.materialize factories a w = (made', w') ∧ Alike made made' := by
  unfold AttributeStore.materialize
  cases hdefault : a.default with
  | factory make =>
    dsimp only
    rw [h.isSet_eq]
    split
    · exact ⟨store, other, w, rfl, rfl, h⟩
    · exact ⟨_, _, _, rfl, rfl, h.put a (factories kind make w).1⟩
  | _ => exact ⟨store, other, w, rfl, rfl, h⟩

/-- **No operation tells the stores apart**, and it leaves them alike. -/
theorem perform (h : Alike store other) (factories : Factories W) (op : StoreOp) (w : W) :
    ∃ answer left left' w', op.perform factories store w = ((answer, left), w') ∧
      op.perform factories other w = ((answer, left'), w') ∧ Alike left left' := by
  cases op with
  | get a =>
    obtain ⟨made, made', w', hmade, hmade', halike⟩ := h.materialize factories a w
    refine ⟨.value (StoredValue.ofKind (made.peek a)), made, made', w', ?_, ?_, halike⟩
    · simp only [StoreOp.perform, AttributeStore.get, bind, StateT.bind, hmade]
      rfl
    · simp only [StoreOp.perform, AttributeStore.get, bind, StateT.bind, hmade', halike.peek_eq]
      rfl
  | modify a change =>
    obtain ⟨made, made', w', hmade, hmade', halike⟩ := h.materialize factories a w
    have hvalue := halike.value?_eq a
    simp only [StoreOp.perform, AttributeStore.modify, bind, StateT.bind, hmade, hmade', hvalue]
    cases made'.value? a with
    | none => exact ⟨_, made, made', w', rfl, rfl, halike⟩
    | some value => exact ⟨_, _, _, w', rfl, rfl, halike.put a (change value)⟩
  | peek a =>
    simp only [StoreOp.perform, h.peek_eq]
    exact ⟨_, store, other, w, rfl, rfl, h⟩
  | set a value =>
    simp only [StoreOp.perform, AttributeStore.set, h.value?_eq]
    exact ⟨_, _, _, w, rfl, rfl, h.put a value⟩
  | remove a =>
    simp only [StoreOp.perform, AttributeStore.remove, h.value?_eq]
    exact ⟨_, _, _, w, rfl, rfl, h.erase a⟩
  | isSet a =>
    simp only [StoreOp.perform, h.isSet_eq]
    exact ⟨_, store, other, w, rfl, rfl, h⟩
  | length =>
    simp only [StoreOp.perform, h.length_eq]
    exact ⟨_, store, other, w, rfl, rfl, h⟩
  | clear => exact ⟨_, _, _, w, rfl, rfl, h.clear⟩

end Alike

end AttributeStore

/-! ### The registry -/

namespace AttributeStore

theorem materialize_registry (factories : Factories W) (store : AttributeStore) (a : Attribute kind)
    (w : W) : (store.materialize factories a w).1.registry = store.registry := by
  unfold AttributeStore.materialize
  cases hdefault : a.default with
  | factory make =>
    dsimp only
    split
    · rfl
    · exact store.put_registry a _
  | _ => rfl

theorem modify_registry (factories : Factories W) (store : AttributeStore) (a : Attribute kind)
    (change : kind.Carrier → kind.Carrier) (w : W) :
    (store.modify factories a change w).1.2.registry = store.registry := by
  rcases hmade : store.materialize factories a w with ⟨made, w'⟩
  have hregistry := store.materialize_registry factories a w
  rw [hmade] at hregistry
  simp only [AttributeStore.modify, bind, StateT.bind, hmade]
  cases made.value? a with
  | none => exact hregistry
  | some value => exact (made.put_registry a _).trans hregistry

end AttributeStore

/-- No operation makes a store belong to another registry. -/
theorem StoreOp.perform_registry (factories : Factories W) (op : StoreOp) (store : AttributeStore)
    (w : W) : (op.perform factories store w).1.2.registry = store.registry := by
  cases op with
  | get a => exact store.materialize_registry factories a w
  | modify a change => exact store.modify_registry factories a change w
  | set a value => exact store.put_registry a value
  | remove a => exact store.erase_registry a
  | _ => rfl

/-! ### Factories that always make the same -/

/-- Carries out an operation on a store with factories of which each always makes the same value. -/
def StoreOp.performWith (values : FactoryValues) (op : StoreOp) (store : AttributeStore) :
    StoreAnswer × AttributeStore :=
  (op.perform (values.factories Unit) store ()).1

/-- **No operation tells two such stores apart**. -/
theorem StoreOp.performWith_alike (values : FactoryValues) (op : StoreOp) (h : store.Alike other) :
    (op.performWith values store).1 = (op.performWith values other).1 ∧
      (op.performWith values store).2.Alike (op.performWith values other).2 := by
  obtain ⟨answer, left, left', w', heq, heq', halike⟩ :=
    h.perform (values.factories Unit) op ()
  rw [performWith, performWith, heq, heq']
  exact ⟨rfl, halike⟩

end Conduit
