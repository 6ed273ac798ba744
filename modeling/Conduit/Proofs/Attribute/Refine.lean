import Conduit.Proofs.Attribute.Handle
import Conduit.Proofs.Attribute.Map

/-!
# Every store acts as a finite map

A run of operations on a store is compared with the same run on a map that is empty at first. The
answers are the same, and so are the factory calls: what is counted while the store works is what the
map tells beforehand (`AttributeStore.acts_as_map`).

For that the values under a key have to be of one kind. Where attributes are kept by slot, registries
see to it; where they are kept by name, it is asked of the handles (`Registries.Allows`).
-/

namespace Conduit

variable {W S : Type} {kind : ValueKind}

/-! ### Runs -/

/-- What an operation came to. -/
structure StoreMoment where
  /-- The operation. -/
  op : StoreOp
  /-- Its answer. -/
  answer : StoreAnswer
  /-- How often it called a factory. -/
  calls : Nat

/-- What a run of operations came to. -/
structure StoreRun (S W : Type) where
  /-- What the operations came to, one after another. -/
  moments : List StoreMoment
  /-- What they left. -/
  left : S
  /-- The state of the factories. -/
  world : W

/-- Carries out operations one after another. -/
def StoreRun.of (step : S → StoreOp → W → StoreMoment × S × W) : S → List StoreOp → W → StoreRun S W
  | s, [], w => ⟨[], s, w⟩
  | s, op :: ops, w =>
    let (moment, s, w) := step s op w
    let rest := of step s ops w
    { rest with moments := moment :: rest.moments }

theorem StoreRun.left_append (step : S → StoreOp → W → StoreMoment × S × W) (s : S)
    (before after : List StoreOp) (w : W) :
    (of step s (before ++ after) w).left =
      (of step (of step s before w).left after (of step s before w).world).left := by
  induction before generalizing s w with
  | nil => rfl
  | cons op before ih => exact ih _ _

/-- The factories with a count of their calls. -/
def Factories.counting (factories : Factories W) : Factories (W × Nat) :=
  fun kind make (w, calls) ↦
    let (value, w) := factories kind make w
    (value, w, calls + 1)

/-- Carries out an operation on a store, and counts the factory calls. -/
def AttributeStore.step (factories : Factories W) (store : AttributeStore) (op : StoreOp) (w : W) :
    StoreMoment × AttributeStore × W :=
  let ((answer, store), w, calls) := op.perform factories.counting store (w, 0)
  (⟨op, answer, calls⟩, store, w)

/-- Carries out operations on a store. -/
def AttributeStore.run (factories : Factories W) :
    AttributeStore → List StoreOp → W → StoreRun AttributeStore W :=
  .of (AttributeStore.step factories)

namespace StoreOp

/-- The key that an operation is about. -/
def key? (registry : Option Nat) (op : StoreOp) : Option AttributeKey :=
  op.handle?.map fun a ↦ .of registry a.2

/-- The key under which an operation puts the value of a factory, if there is none. -/
def makes? (registry : Option Nat) : StoreOp → Option AttributeKey
  | get a | modify a _ => if a.hasFactory then some (.of registry a) else none
  | _ => none

/-- Whether an operation removes what is kept under a key. -/
def drops (registry : Option Nat) (key : AttributeKey) : StoreOp → Bool
  | remove a => AttributeKey.of registry a = key
  | clear => true
  | _ => false

end StoreOp

namespace AttributeMap

/-- How often an operation calls a factory: once if it needs a value for an absent key. -/
def callsOf (registry : Option Nat) (map : AttributeMap) (op : StoreOp) : Nat :=
  match op.makes? registry with
  | some key => if key ∈ map then 0 else 1
  | none => 0

/-- A read of an attribute with a factory calls it once, if nothing stands under its key. -/
theorem callsOf_of_makes? {registry : Option Nat} {map : AttributeMap} (op : StoreOp)
    {a : Attribute kind}
    (h : op.makes? registry = if a.hasFactory then some (.of registry a) else none) :
    map.callsOf registry op = if a.hasFactory ∧ .of registry a ∉ map then 1 else 0 := by
  rw [callsOf, h]
  cases a.hasFactory with
  | false => simp
  | true => by_cases hmem : .of registry a ∈ map <;> simp [hmem]

/-- Carries out an operation on a map, and tells how often it calls a factory. -/
def step (factories : Factories W) (registry : Option Nat) (map : AttributeMap) (op : StoreOp) (w : W) :
    StoreMoment × AttributeMap × W :=
  let ((answer, left), w) := map.perform factories registry op w
  (⟨op, answer, map.callsOf registry op⟩, left, w)

/-- Carries out operations on a map. -/
def run (factories : Factories W) (registry : Option Nat) :
    AttributeMap → List StoreOp → W → StoreRun AttributeMap W :=
  .of (AttributeMap.step factories registry)

/-! ### Kinds -/

/-- The values under every key are of the kind given for it. -/
def Typed (kinds : AttributeKey → ValueKind) (map : AttributeMap) : Prop :=
  ∀ key stored, map.lookup key = some stored → stored.kind = kinds key

variable {kinds : AttributeKey → ValueKind} {map : AttributeMap} {key : AttributeKey}

theorem Typed.insert (h : map.Typed kinds) {stored : StoredValue} (hkind : stored.kind = kinds key) :
    Typed kinds (map.insert key stored) := by
  intro other found hfound
  by_cases hother : other = key
  · subst hother
    rw [Finmap.lookup_insert] at hfound
    rw [← Option.some.inj hfound, hkind]
  · rw [Finmap.lookup_insert_of_ne _ hother] at hfound
    exact h other found hfound

theorem Typed.erase (h : map.Typed kinds) (key : AttributeKey) : Typed kinds (map.erase key) := by
  intro other found hfound
  by_cases hother : other = key
  · subst hother
    rw [Finmap.lookup_erase] at hfound
    contradiction
  · rw [Finmap.lookup_erase_ne hother] at hfound
    exact h other found hfound

theorem typed_empty : Typed kinds ∅ := by
  intro key stored hstored
  rw [Finmap.lookup_empty] at hstored
  contradiction

end AttributeMap

namespace StoredValue

/-- A value of the right kind is found again as it was put. -/
theorem ofKind_as? {stored : StoredValue} (h : stored.kind = kind) :
    ofKind (stored.as? kind) = some stored := by
  subst h
  simp [as?, ofKind]

/-- A default is used where there is no value. -/
theorem ofKind_or (value default : Option kind.Carrier) :
    ofKind (value.or default) = (ofKind value).or (ofKind default) :=
  Option.map_or

theorem change_eq {stored : StoredValue} {value : kind.Carrier}
    (h : stored.as? kind = some value) (f : kind.Carrier → kind.Carrier) :
    stored.change f = ⟨kind, f value⟩ := by
  rw [change, h]

end StoredValue

/-! ### One operation -/

/-- The handle of an operation is of the kind that its key has. -/
def StoreOp.Fits (registry : Option Nat) (kinds : AttributeKey → ValueKind) (op : StoreOp) : Prop :=
  ∀ a ∈ op.handle?, kinds (.of registry a.2) = a.1

namespace AttributeStore

variable {store : AttributeStore} {map : AttributeMap} {kinds : AttributeKey → ValueKind}

/-- A store stands for a map whose values are of the given kinds. -/
structure Holds (kinds : AttributeKey → ValueKind) (store : AttributeStore) (map : AttributeMap) : Prop
    extends store.Represents map where
  typed : map.Typed kinds

namespace Holds

/-- What is read is what stands under the key, when its kind is that of the key. -/
theorem ofKind_value? (h : store.Holds kinds map) {a : Attribute kind}
    (hkind : kinds (store.keyOf a) = kind) :
    StoredValue.ofKind (store.value? a) = map.lookup (store.keyOf a) := by
  rw [h.value?_eq]
  cases hstored : map.lookup (store.keyOf a) with
  | none => rfl
  | some stored => exact StoredValue.ofKind_as? ((h.typed _ _ hstored).trans hkind)

/-- Without a value the default is shown. -/
theorem ofKind_peek (h : store.Holds kinds map) {a : Attribute kind}
    (hkind : kinds (store.keyOf a) = kind) :
    StoredValue.ofKind (store.peek a) =
      (map.lookup (store.keyOf a)).or (StoredValue.ofKind a.defaultValue?) := by
  rw [peek, StoredValue.ofKind_or, h.ofKind_value? hkind]

theorem put (h : store.Holds kinds map) {a : Attribute kind}
    (hkind : kinds (store.keyOf a) = kind) (value : kind.Carrier) :
    (store.put a value).Holds kinds (map.insert (store.keyOf a) ⟨kind, value⟩) :=
  ⟨h.toRepresents.put a value, h.typed.insert hkind.symm⟩

/-- A store makes a value when the map does, and calls the factory once for it. -/
theorem materialize (h : store.Holds kinds map) (factories : Factories W) {a : Attribute kind}
    (hkind : kinds (store.keyOf a) = kind) (w : W) :
    ∃ made map' w', store.materialize factories.counting a (w, 0) =
        (made, w', if a.hasFactory ∧ store.keyOf a ∉ map then 1 else 0) ∧
      map.materialize factories (store.keyOf a) a w = (map', w') ∧
      made.registry = store.registry ∧ made.Holds kinds map' := by
  cases hdefault : a.default with
  | factory make =>
    have hfactory : a.hasFactory = true := by rw [Attribute.hasFactory, hdefault]
    simp only [AttributeStore.materialize, AttributeMap.materialize, hdefault, hfactory, true_and]
    by_cases hmem : store.keyOf a ∈ map
    · refine ⟨store, map, w, ?_, ?_, rfl, h⟩
      · rw [if_pos ((h.isSet_iff a).2 hmem), if_neg (not_not_intro hmem)]
        rfl
      · rw [if_pos hmem]
        rfl
    · refine ⟨store.put a (factories kind make w).1, _, (factories kind make w).2, ?_, ?_, ?_,
        h.put hkind (factories kind make w).1⟩
      · rw [if_neg fun hset ↦ hmem ((h.isSet_iff a).1 hset), if_pos hmem]
        rfl
      · rw [if_neg hmem]
        rfl
      · exact store.put_registry a _
  | _ =>
    have hfactory : ¬a.hasFactory = true := by simp [Attribute.hasFactory, hdefault]
    simp only [AttributeStore.materialize, AttributeMap.materialize, hdefault]
    refine ⟨store, map, w, ?_, rfl, rfl, h⟩
    rw [if_neg fun hmake ↦ hfactory hmake.1]
    rfl

/-- An operation does to a store what it does to the map, and answers the same. -/
theorem step (h : store.Holds kinds map) (factories : Factories W) {op : StoreOp}
    (hfits : op.Fits store.registry kinds) (w : W) :
    ∃ moment left map' w', store.step factories op w = (moment, left, w') ∧
      map.step factories store.registry op w = (moment, map', w') ∧
      left.registry = store.registry ∧ left.Holds kinds map' := by
  cases op with
  | @get kind a =>
    have hkind : kinds (store.keyOf a) = kind := hfits _ rfl
    obtain ⟨made, map', w', hmade, hmap, hregistry, hholds⟩ := h.materialize factories hkind w
    have hkey : made.keyOf a = store.keyOf a := by rw [keyOf, hregistry]
    have hanswer := hholds.ofKind_peek (a := a) (by rw [hkey, hkind])
    rw [hkey] at hanswer
    rw [← AttributeMap.callsOf_of_makes? (.get a) rfl] at hmade
    refine ⟨⟨.get a, .value (StoredValue.ofKind (made.peek a)), map.callsOf store.registry (.get a)⟩,
      made, map', w', ?_, ?_, hregistry, hholds⟩
    · simp only [AttributeStore.step, StoreOp.perform, AttributeStore.get, bind, StateT.bind, hmade]
      rfl
    · simp only [AttributeMap.step, AttributeMap.perform, bind, StateT.bind, hmap, hanswer]
      rfl
  | @modify kind a change =>
    have hkind : kinds (store.keyOf a) = kind := hfits _ rfl
    obtain ⟨made, map', w', hmade, hmap, hregistry, hholds⟩ := h.materialize factories hkind w
    have hkey : made.keyOf a = store.keyOf a := by rw [keyOf, hregistry]
    have hkind' : kinds (made.keyOf a) = kind := by rw [hkey, hkind]
    rw [← AttributeMap.callsOf_of_makes? (.modify a change) rfl] at hmade
    have hanswer := hholds.ofKind_value? hkind'
    rw [hkey] at hanswer
    cases hvalue : made.value? a with
    | none =>
      rw [hvalue] at hanswer
      refine ⟨⟨.modify a change, .value none, map.callsOf store.registry (.modify a change)⟩,
        made, map', w', ?_, ?_, hregistry, hholds⟩
      · simp only [AttributeStore.step, StoreOp.perform, AttributeStore.modify, bind, StateT.bind,
          hmade, hvalue]
        rfl
      · simp only [AttributeMap.step, AttributeMap.perform, bind, StateT.bind, hmap, ← hanswer]
        rfl
    | some value =>
      rw [hvalue] at hanswer
      refine ⟨⟨.modify a change, .value (some ⟨kind, value⟩),
          map.callsOf store.registry (.modify a change)⟩, made.put a (change value),
        map'.insert (store.keyOf a) ⟨kind, change value⟩, w', ?_, ?_,
        (made.put_registry a _).trans hregistry, hkey ▸ hholds.put hkind' (change value)⟩
      · simp only [AttributeStore.step, StoreOp.perform, AttributeStore.modify, bind, StateT.bind,
          hmade, hvalue]
        rfl
      · have hchange := StoredValue.change_eq (StoredValue.as?_mk kind value) change
        simp only [AttributeMap.step, AttributeMap.perform, bind, StateT.bind, hmap, ← hanswer]
        rw [← hchange]
        rfl
  | @peek kind a =>
    refine ⟨_, store, map, w, rfl, ?_, rfl, h⟩
    rw [h.ofKind_peek (hfits _ rfl)]
    rfl
  | @set kind a value =>
    refine ⟨_, _, _, w, rfl, ?_, store.put_registry a value, h.put (hfits _ rfl) value⟩
    rw [AttributeStore.set, h.ofKind_value? (hfits _ rfl)]
    rfl
  | @remove kind a =>
    refine ⟨_, _, _, w, rfl, ?_, store.erase_registry a, h.toRepresents.erase a, h.typed.erase _⟩
    rw [AttributeStore.remove, h.ofKind_value? (hfits _ rfl)]
    rfl
  | @isSet kind a =>
    refine ⟨_, store, map, w, rfl, ?_, rfl, h⟩
    have hset : store.isSet a = decide (store.keyOf a ∈ map) := by
      rw [Bool.eq_iff_iff, h.isSet_iff, decide_eq_true_iff]
    rw [hset]
    rfl
  | length =>
    refine ⟨_, store, map, w, rfl, ?_, rfl, h⟩
    rw [h.length_eq]
    rfl
  | clear => exact ⟨_, store.clear, ∅, w, rfl, rfl, rfl, h.toRepresents.clear, AttributeMap.typed_empty⟩

/-- So does a run. -/
theorem run (h : store.Holds kinds map) (factories : Factories W) {ops : List StoreOp}
    (hfits : ∀ op ∈ ops, op.Fits store.registry kinds) (w : W) :
    (store.run factories ops w).moments = (map.run factories store.registry ops w).moments ∧
      (store.run factories ops w).world = (map.run factories store.registry ops w).world ∧
      (store.run factories ops w).left.registry = store.registry ∧
      (store.run factories ops w).left.Holds kinds (map.run factories store.registry ops w).left := by
  induction ops generalizing store map w with
  | nil => exact ⟨rfl, rfl, rfl, h⟩
  | cons op ops ih =>
    obtain ⟨hop, hops⟩ := List.forall_mem_cons.1 hfits
    obtain ⟨moment, left, map', w', hstore, hmap, hregistry, hholds⟩ := h.step factories hop w
    have hrest := ih hholds (by rwa [hregistry]) w'
    rw [hregistry] at hrest
    simp only [AttributeStore.run, AttributeMap.run, StoreRun.of, hstore, hmap]
    exact ⟨congrArg (moment :: ·) hrest.1, hrest.2⟩

end Holds

end AttributeStore

/-! ### What an operation does to a map -/

namespace AttributeMap

variable {map : AttributeMap} {registry : Option Nat} {op : StoreOp} {key : AttributeKey}

/-- Whatever a factory makes goes under its key, where there is a value then. -/
theorem materialize_cases (factories : Factories W) (map : AttributeMap) (key : AttributeKey)
    (a : Attribute kind) (w : W) :
    ((map.materialize factories key a w).1 = map ∨
      ∃ stored, (map.materialize factories key a w).1 = map.insert key stored) ∧
      (a.hasFactory = true → key ∈ (map.materialize factories key a w).1) := by
  unfold AttributeMap.materialize
  cases hdefault : a.default with
  | factory make =>
    by_cases hmem : key ∈ map
    · simp only [if_pos hmem]
      exact ⟨Or.inl rfl, fun _ ↦ hmem⟩
    · simp only [if_neg hmem]
      exact ⟨Or.inr ⟨_, rfl⟩, fun _ ↦ Finmap.mem_insert.2 (Or.inl rfl)⟩
  | _ =>
    refine ⟨Or.inl rfl, fun hfactory ↦ ?_⟩
    simp [Attribute.hasFactory, hdefault] at hfactory

/-- A value that is there is changed in its place. -/
theorem step_modify_some {factories : Factories W} {a : Attribute kind} {w : W} {stored : StoredValue}
    (hstored : (map.materialize factories (.of registry a) a w).1.lookup (.of registry a) = some stored)
    (change : kind.Carrier → kind.Carrier) :
    (map.step factories registry (.modify a change) w).2.1 =
      (map.materialize factories (.of registry a) a w).1.insert (.of registry a)
        (stored.change change) := by
  rcases hmade : map.materialize factories (.of registry a) a w with ⟨made, w'⟩
  rw [hmade] at hstored
  simp only [step, perform, bind, StateT.bind, hmade, hstored]
  rfl

/-- Where there is no value even now, nothing is changed. -/
theorem step_modify_none {factories : Factories W} {a : Attribute kind} {w : W}
    (habsent : (map.materialize factories (.of registry a) a w).1.lookup (.of registry a) = none)
    (change : kind.Carrier → kind.Carrier) :
    (map.step factories registry (.modify a change) w).2.1 =
      (map.materialize factories (.of registry a) a w).1 := by
  rcases hmade : map.materialize factories (.of registry a) a w with ⟨made, w'⟩
  rw [hmade] at habsent
  simp only [step, perform, bind, StateT.bind, hmade, habsent]
  rfl

/-- An operation leaves a map as it is, or changes it at its key, or empties it. -/
theorem step_cases (factories : Factories W) (registry : Option Nat) (map : AttributeMap) (op : StoreOp)
    (w : W) :
    (map.step factories registry op w).2.1 = map ∨
      (∃ key stored, op.key? registry = some key ∧
        (map.step factories registry op w).2.1 = map.insert key stored) ∨
      (∃ key, op.key? registry = some key ∧ op.drops registry key = true ∧
        (map.step factories registry op w).2.1 = map.erase key) ∨
      op = .clear ∧ (map.step factories registry op w).2.1 = ∅ := by
  cases op with
  | get a =>
    rcases (materialize_cases factories map (.of registry a) a w).1 with hsame | ⟨stored, hinsert⟩
    · exact Or.inl hsame
    · exact Or.inr (Or.inl ⟨_, stored, rfl, hinsert⟩)
  | modify a change =>
    have hmade := (materialize_cases factories map (.of registry a) a w).1
    cases hlookup : (map.materialize factories (.of registry a) a w).1.lookup (.of registry a) with
    | none =>
      rw [step_modify_none hlookup]
      rcases hmade with hsame | ⟨stored, hinsert⟩
      · exact Or.inl hsame
      · exact Or.inr (Or.inl ⟨_, stored, rfl, hinsert⟩)
    | some found =>
      refine Or.inr (Or.inl ⟨.of registry a, found.change change, rfl, ?_⟩)
      rw [step_modify_some hlookup]
      rcases hmade with hsame | ⟨stored, hinsert⟩
      · rw [hsame]
      · rw [hinsert]
        exact Finmap.insert_insert map
  | set a value => exact Or.inr (Or.inl ⟨_, _, rfl, rfl⟩)
  | remove a => exact Or.inr (Or.inr (Or.inl ⟨_, rfl, decide_eq_true rfl, rfl⟩))
  | clear => exact Or.inr (Or.inr (Or.inr ⟨rfl, rfl⟩))
  | _ => exact Or.inl rfl

/-- What is under another key stays as it is. -/
theorem lookup_step_of_ne (factories : Factories W) (w : W) (hne : op.key? registry ≠ some key)
    (hclear : op ≠ .clear) :
    (map.step factories registry op w).2.1.lookup key = map.lookup key := by
  rcases step_cases factories registry map op w with
    hsame | ⟨other, stored, hop, hinsert⟩ | ⟨other, hop, -, herase⟩ | ⟨rfl, -⟩
  · rw [hsame]
  · rw [hinsert, Finmap.lookup_insert_of_ne _ fun heq ↦ hne (hop.trans (congrArg some heq.symm))]
  · rw [herase, Finmap.lookup_erase_ne fun heq ↦ hne (hop.trans (congrArg some heq.symm))]
  · exact absurd rfl hclear

/-- A key is present until its value is removed. -/
theorem mem_step (factories : Factories W) (w : W) (hmem : key ∈ map)
    (hkeep : op.drops registry key = false) : key ∈ (map.step factories registry op w).2.1 := by
  rcases step_cases factories registry map op w with
    hsame | ⟨other, stored, hop, hinsert⟩ | ⟨other, hop, hdrops, herase⟩ | ⟨rfl, -⟩
  · rwa [hsame]
  · rw [hinsert]
    exact Finmap.mem_insert.2 (Or.inr hmem)
  · rw [herase]
    refine Finmap.mem_erase.2 ⟨fun heq ↦ ?_, hmem⟩
    rw [heq, hdrops] at hkeep
    contradiction
  · contradiction

/-- An operation that needs a value leaves one. -/
theorem mem_step_of_makes? (factories : Factories W) (w : W) (hmakes : op.makes? registry = some key) :
    key ∈ (map.step factories registry op w).2.1 := by
  cases op with
  | get a =>
    obtain ⟨hfactory, hkey⟩ := Option.ite_none_right_eq_some.1 hmakes
    obtain rfl := Option.some.inj hkey
    exact (materialize_cases factories map _ a w).2 hfactory
  | modify a change =>
    obtain ⟨hfactory, hkey⟩ := Option.ite_none_right_eq_some.1 hmakes
    obtain rfl := Option.some.inj hkey
    have hmade := (materialize_cases factories map (.of registry a) a w).2 hfactory
    obtain ⟨stored, hstored⟩ := Finmap.mem_iff.1 hmade
    rw [step_modify_some hstored]
    exact Finmap.mem_insert.2 (Or.inl rfl)
  | _ => contradiction

/-! ### Factory calls -/

/-- No operation calls a factory more than once. -/
theorem callsOf_le (registry : Option Nat) (map : AttributeMap) (op : StoreOp) :
    map.callsOf registry op ≤ 1 := by
  unfold callsOf
  split
  · split <;> decide
  · decide

/-- A factory is called when nothing stands under the key for which it makes something. -/
theorem makes?_of_callsOf (h : map.callsOf registry op ≠ 0) :
    ∃ key, op.makes? registry = some key ∧ key ∉ map := by
  unfold callsOf at h
  split at h
  · next key hmakes =>
    refine ⟨key, hmakes, fun hmem ↦ ?_⟩
    rw [if_pos hmem] at h
    contradiction
  · contradiction

theorem key?_of_makes? (h : op.makes? registry = some key) : op.key? registry = some key := by
  cases op with
  | get | modify => exact (Option.ite_none_right_eq_some.1 h).2
  | _ => contradiction

theorem calls_le_of_mem (factories : Factories W) {ops : List StoreOp} {w : W} {moment : StoreMoment}
    (hmem : moment ∈ (map.run factories registry ops w).moments) : moment.calls ≤ 1 := by
  induction ops generalizing map w with
  | nil => contradiction
  | cons op ops ih =>
    rcases List.mem_cons.1 hmem with rfl | hmem
    · exact callsOf_le registry map op
    · exact ih hmem

/-- While a key is present, no operation on it calls a factory. -/
theorem drops_of_calls (factories : Factories W) {ops : List StoreOp} {w : W}
    {between after : List StoreMoment} {second : StoreMoment} (hmem : key ∈ map)
    (hsplit : (map.run factories registry ops w).moments = between ++ second :: after)
    (hkey : second.op.key? registry = some key) (hcalls : second.calls ≠ 0) :
    ∃ moment ∈ between, moment.op.drops registry key = true := by
  induction between generalizing map ops w with
  | nil =>
    cases ops with
    | nil => contradiction
    | cons op ops =>
      obtain ⟨rfl, -⟩ := List.cons.inj hsplit
      obtain ⟨other, hmakes, habsent⟩ := makes?_of_callsOf hcalls
      obtain rfl := Option.some.inj ((key?_of_makes? hmakes).symm.trans hkey)
      exact absurd hmem habsent
  | cons moment between ih =>
    cases ops with
    | nil => contradiction
    | cons op ops =>
      obtain ⟨rfl, hrest⟩ := List.cons.inj hsplit
      cases hdrops : op.drops registry key with
      | true => exact ⟨_, List.mem_cons_self, hdrops⟩
      | false =>
        obtain ⟨moment, hmoment, hdropped⟩ := ih (mem_step factories w hmem hdrops) hrest
        exact ⟨moment, List.mem_cons_of_mem _ hmoment, hdropped⟩

/-- Between two calls of factories for one key, its value was removed. -/
theorem drops_between_calls (factories : Factories W) {ops : List StoreOp} {w : W}
    {before between after : List StoreMoment} {first second : StoreMoment}
    (hsplit : (map.run factories registry ops w).moments =
      before ++ first :: (between ++ second :: after))
    (hkey : first.op.key? registry = some key) (hkey' : second.op.key? registry = some key)
    (hcalls : first.calls ≠ 0) (hcalls' : second.calls ≠ 0) :
    ∃ moment ∈ between, moment.op.drops registry key = true := by
  induction before generalizing map ops w with
  | nil =>
    cases ops with
    | nil => contradiction
    | cons op ops =>
      obtain ⟨rfl, hrest⟩ := List.cons.inj hsplit
      obtain ⟨other, hmakes, -⟩ := makes?_of_callsOf hcalls
      obtain rfl := Option.some.inj ((key?_of_makes? hmakes).symm.trans hkey)
      exact drops_of_calls factories (mem_step_of_makes? factories w hmakes) hrest hkey' hcalls'
  | cons moment before ih =>
    cases ops with
    | nil => contradiction
    | cons op ops =>
      obtain ⟨-, hrest⟩ := List.cons.inj hsplit
      exact ih hrest

end AttributeMap

/-! ### The handles of a run -/

namespace Registries

variable {registries : Registries} {registry : Option Nat} {ops : List StoreOp} {store : AttributeStore}

/-- The stores as they are made: for a registry at any time, or for none. -/
inductive Opens (registries : Registries) : AttributeStore → Prop where
  | new {past : Registry} (hpast : registries.Past past) : Opens registries (.new past)
  | detached : Opens registries .detached

/-- The operations are called with handles that the registries have given out, and those by which
values are kept under the same name are of the same kind. -/
structure Allows (registries : Registries) (registry : Option Nat) (ops : List StoreOp) : Prop where
  issued : ∀ a ∈ ops.filterMap StoreOp.handle?, registries.Issues a.2
  named : ∀ a ∈ ops.filterMap StoreOp.handle?, ∀ b ∈ ops.filterMap StoreOp.handle?,
    registry ≠ some a.2.registry → registry ≠ some b.2.registry → a.2.name = b.2.name → a.1 = b.1

/-- A store that was just opened stands for the empty map. -/
theorem Opens.represents (h : registries.Opens store) : store.Represents ∅ := by
  cases h with
  | new hpast => exact .of_blank (AttributeStore.blank_new _)
  | detached => exact .of_blank AttributeStore.blank_detached

/-- Handles of one key are of one kind. -/
theorem Allows.kind_eq (h : registries.Allows registry ops) {a b : (kind : ValueKind) × Attribute kind}
    (ha : a ∈ ops.filterMap StoreOp.handle?) (hb : b ∈ ops.filterMap StoreOp.handle?)
    (hkey : AttributeKey.of registry a.2 = AttributeKey.of registry b.2) : a.1 = b.1 := by
  unfold AttributeKey.of at hkey
  split at hkey <;> split at hkey
  · next howns howns' =>
    exact Registries.kind_eq (h.issued a ha) (h.issued b hb)
      (Option.some.inj (howns.symm.trans howns')) (AttributeKey.slot.inj hkey)
  · contradiction
  · contradiction
  · next howns howns' => exact h.named a ha b hb howns howns' (AttributeKey.name.inj hkey)

/-- Among operations that a registry allows, every key has one kind. -/
theorem Allows.exists_kinds (h : registries.Allows registry ops) :
    ∃ kinds : AttributeKey → ValueKind, ∀ op ∈ ops, op.Fits registry kinds := by
  have heach : ∀ key : AttributeKey, ∃ kind : ValueKind,
      ∀ a ∈ ops.filterMap StoreOp.handle?, AttributeKey.of registry a.2 = key → kind = a.1 := by
    intro key
    by_cases hused : ∃ a ∈ ops.filterMap StoreOp.handle?, AttributeKey.of registry a.2 = key
    · obtain ⟨a, ha, rfl⟩ := hused
      exact ⟨a.1, fun b hb hkey ↦ h.kind_eq ha hb hkey.symm⟩
    · exact ⟨default, fun a ha hkey ↦ absurd ⟨a, ha, hkey⟩ hused⟩
  choose kinds hkinds using heach
  exact ⟨kinds, fun op hop a ha ↦ hkinds _ a (List.mem_filterMap.2 ⟨op, hop, ha⟩) rfl⟩

end Registries

/-! ### The main result -/

namespace AttributeStore

/-- What it means for a store that a run of operations acts on it as on a finite map. -/
structure ActsAsMap (factories : Factories W) (store : AttributeStore) (ops : List StoreOp) (w : W) :
    Prop where
  /-- The operations answer, and call factories, as they do on a map that is empty at first. -/
  moments : (store.run factories ops w).moments =
    (AttributeMap.run factories store.registry ∅ ops w).moments
  /-- The factories are left in the same state. -/
  world : (store.run factories ops w).world =
    (AttributeMap.run factories store.registry ∅ ops w).world
  /-- The store holds what the map holds, and lists every slot that is filled once. -/
  represents : (store.run factories ops w).left.Represents
    (AttributeMap.run factories store.registry ∅ ops w).left
  /-- The last operation does not change what is to be seen under another key. -/
  apart : ∀ before op, ops = before ++ [op] → op ≠ .clear → ∀ (kind : ValueKind) (b : Attribute kind),
    op.key? store.registry ≠ some (store.keyOf b) →
      let earlier := (store.run factories before w).left
      let later := (store.run factories ops w).left
      later.isSet b = earlier.isSet b ∧ later.peek b = earlier.peek b
  /-- If the last operation was to clear the store, there is nothing to be seen. -/
  cleared : ∀ before, ops = before ++ [.clear] →
    let left := (store.run factories ops w).left
    left.length = 0 ∧ ∀ (kind : ValueKind) (b : Attribute kind),
      left.isSet b = false ∧ left.peek b = b.defaultValue?
  /-- No operation calls a factory more than once. -/
  calls : ∀ moment ∈ (store.run factories ops w).moments, moment.calls ≤ 1
  /-- When factories are called twice for one key, its value was removed in between. -/
  once : ∀ before first between second after key,
    (store.run factories ops w).moments = before ++ first :: (between ++ second :: after) →
      first.op.key? store.registry = some key → second.op.key? store.registry = some key →
      first.calls ≠ 0 → second.calls ≠ 0 →
      ∃ moment ∈ between, moment.op.drops store.registry key = true

variable {store : AttributeStore}

/-- **A store acts as a finite map.** Whatever operations are carried out on a new store, through handles
of whatever registries, nobody can tell it from a finite map. -/
theorem acts_as_map {registries : Registries} (hopens : registries.Opens store) {ops : List StoreOp}
    (hallows : registries.Allows store.registry ops) (factories : Factories W) (w : W) :
    store.ActsAsMap factories ops w := by
  obtain ⟨kinds, hfits⟩ := hallows.exists_kinds
  have hstart : store.Holds kinds ∅ := ⟨hopens.represents, AttributeMap.typed_empty⟩
  obtain ⟨hmoments, hworld, hregistry, hholds⟩ := hstart.run factories hfits w
  refine ⟨hmoments, hworld, hholds.toRepresents, ?_, ?_, ?_, ?_⟩
  · rintro before op rfl hclear kind b hne
    obtain ⟨-, -, hregistry', hholds'⟩ :=
      hstart.run factories (fun op hop ↦ hfits op (List.mem_append_left _ hop)) w
    refine hholds'.toRepresents.seen_eq hholds.toRepresents (hregistry.trans hregistry'.symm) ?_
    rw [AttributeMap.run, StoreRun.left_append, ← AttributeMap.run, keyOf, hregistry']
    exact AttributeMap.lookup_step_of_ne factories _ hne hclear
  · rintro before rfl
    rw [AttributeMap.run, StoreRun.left_append] at hholds
    exact hholds.toRepresents.seen_empty
  · rw [hmoments]
    exact fun moment ↦ AttributeMap.calls_le_of_mem factories
  · rw [hmoments]
    intro before first between second after key hsplit hkey hkey' hcalls hcalls'
    exact AttributeMap.drops_between_calls factories hsplit hkey hkey' hcalls hcalls'

/-- A value that is read twice is made once, and made again after it was removed. -/
theorem acts_as_map_readTwice :
    let reads : Attribute .unsigned64 := ⟨0, "reads", 7, .factory ⟨0⟩⟩
    let store := AttributeStore.new (.new 7 1)
    let ops := [StoreOp.get reads, .get reads, .remove reads, .get reads]
    store.ActsAsMap (FactoryValues.plain.factories Unit) ops () ∧
      (store.run (FactoryValues.plain.factories Unit) ops ()).moments.map StoreMoment.calls = [1, 0, 0, 1] := by
  intro reads store ops
  -- The store is made before the attribute is declared.
  let past := Registry.new 7 1
  let declared := (Registry.declare "reads" (.factory ⟨0⟩ : AttributeDefault .unsigned64) past).2
  have hgrows : past.Grows declared := .declare .refl _ _
  let registries := Registries.single declared ⟨1, hgrows⟩
  have hopens : registries.Opens store := .new ⟨⟨1, .refl⟩, hgrows⟩
  have hsince : declared.Grows (registries.registry 7) := .refl
  have hissues : registries.Issues reads :=
    @Registries.Issues.declared registries _ _ past "reads" (.factory ⟨0⟩) ⟨1, .refl⟩ rfl hsince
  have hsame : ∀ a ∈ ops.filterMap StoreOp.handle?, a = ⟨_, reads⟩ := by
    simp [ops, StoreOp.handle?]
  have hallows : registries.Allows store.registry ops := by
    constructor
    · intro a ha
      rw [hsame a ha]
      exact hissues
    · intro a ha b hb _ _ _
      rw [hsame a ha, hsame b hb]
  exact ⟨acts_as_map hopens hallows _ _, rfl⟩

end AttributeStore

end Conduit
