import Conduit.Proofs.Attribute.Refine

/-!
# What an attribute is read as

What is kept under a key can be told from what happened before (`lastStored`): it is the value that was
stored there last, by an operation that sets or changes a value or by a factory, unless it was removed
since. A store keeps exactly that, whatever handles it is used with (`AttributeStore.keeps_run`).

A handle reads what is kept if that is of its kind, and else it reads its default
(`AttributeStore.Reads`). There is one exception: a factory makes a value only where nothing is kept, so a
value of another kind hides it. By slot that cannot happen, for handles of one slot are of one kind; by
name it can, and it is the only way in which a handle with a default can read nothing
(`AttributeStore.reads_run`).
-/

namespace Conduit

variable {W : Type} {kind : ValueKind}

/-! ### What is kept under a key -/

namespace StoreMoment

/-- The value that an operation left under its key, if it put one there. -/
def puts? (moment : StoreMoment) : Option StoredValue :=
  match moment.op, moment.answer with
  | .set _ value, _ => some ⟨_, value⟩
  | .get _, .value made => if moment.calls = 0 then none else made
  | .modify _ change, .value found => found.map (StoredValue.change change)
  | _, _ => none

/-- What is kept under a key after an operation, if this was kept there before. -/
def keep (registry : Option Nat) (key : AttributeKey) (kept : Option StoredValue) (moment : StoreMoment) :
    Option StoredValue :=
  if moment.op.drops registry key then none
  else if moment.op.key? registry = some key then moment.puts?.or kept
  else kept

/-- The value that an operation puts under its key is of the kind of its handle. -/
def Typed (moment : StoreMoment) : Prop :=
  ∀ stored, moment.puts? = some stored → ∃ a, moment.op.handle? = some a ∧ stored.kind = a.1

theorem typed_of_puts?_none {moment : StoreMoment} (h : moment.puts? = none) : moment.Typed := by
  intro stored hstored
  rw [h] at hstored
  contradiction

end StoreMoment

/-- What was stored last under a key and not removed since. -/
def lastStored (registry : Option Nat) (key : AttributeKey) (moments : List StoreMoment) :
    Option StoredValue :=
  moments.foldl (fun kept moment ↦ moment.keep registry key kept) none

/-- What is kept under a key was stored through a handle of that key. -/
theorem exists_handle_of_lastStored {registry : Option Nat} {key : AttributeKey}
    {moments : List StoreMoment} (htyped : ∀ moment ∈ moments, moment.Typed) {stored : StoredValue}
    (h : lastStored registry key moments = some stored) :
    ∃ a ∈ (moments.map StoreMoment.op).filterMap StoreOp.handle?,
      AttributeKey.of registry a.2 = key ∧ stored.kind = a.1 := by
  induction moments using List.reverseRecOn with
  | nil => contradiction
  | append_singleton moments last ih =>
    rw [List.map_append, List.filterMap_append]
    rw [lastStored, List.foldl_append, List.foldl_cons, List.foldl_nil, StoreMoment.keep] at h
    by_cases hputs : last.op.key? registry = some key ∧ last.puts? = some stored
    · obtain ⟨a, hop, hkind⟩ := htyped last (by simp) stored hputs.2
      rw [StoreOp.key?, hop, Option.map_some] at hputs
      exact ⟨a, List.mem_append_right _ (by simp [hop]), Option.some.inj hputs.1, hkind⟩
    · have hkept : lastStored registry key moments = some stored := by
        split at h
        · contradiction
        · split at h
          · next hkey => exact ((Option.or_eq_some_iff.1 h).resolve_left fun hnow ↦ hputs ⟨hkey, hnow⟩).2
          · exact h
      obtain ⟨a, hmem, ha⟩ := ih (fun moment hm ↦ htyped moment (List.mem_append_left _ hm)) hkept
      exact ⟨a, List.mem_append_left _ hmem, ha⟩

/-! ### Reading -/

namespace AttributeStore

variable {store : AttributeStore} {map : AttributeMap} {a : Attribute kind}

/-- How a handle reads and changes a store, given what is kept under its key. The count is that of the
factory calls. -/
structure Reads (factories : Factories W) (store : AttributeStore) (kept : Option StoredValue)
    (a : Attribute kind) (w : W) : Prop where
  /-- A value of its kind is read. -/
  get_stored : ∀ value, kept = some ⟨kind, value⟩ →
    store.get factories.counting a (w, 0) = ((some value, store), w, 0)
  /-- Where nothing is kept, a fixed default is read, and stays as it is. -/
  get_fixed : kept = none → a.hasFactory = false →
    store.get factories.counting a (w, 0) = ((a.defaultValue?, store), w, 0)
  /-- Where nothing is kept, a factory makes a value, which is stored. -/
  get_made : kept = none → ∀ make, a.default = .factory make →
    let made := factories kind make w
    store.get factories.counting a (w, 0) = ((some made.1, store.put a made.1), made.2, 1)
  /-- Where a value of another kind is kept, a fixed default is read, and no factory is called. -/
  get_other : ∀ stored, kept = some stored → stored.kind ≠ kind →
    store.get factories.counting a (w, 0) = ((a.defaultValue?, store), w, 0)
  /-- A value of its kind is changed. -/
  modify_stored : ∀ value, kept = some ⟨kind, value⟩ → ∀ change,
    store.modify factories.counting a change (w, 0) = ((some value, store.put a (change value)), w, 0)
  /-- A fixed default cannot be changed. -/
  modify_fixed : kept = none → a.hasFactory = false → ∀ change,
    store.modify factories.counting a change (w, 0) = ((none, store), w, 0)
  /-- Where nothing is kept, a factory makes the value that is changed. -/
  modify_made : kept = none → ∀ make, a.default = .factory make → ∀ change,
    let made := factories kind make w
    store.modify factories.counting a change (w, 0) =
      ((some made.1, (store.put a made.1).put a (change made.1)), made.2, 1)
  /-- A value of another kind cannot be changed. -/
  modify_other : ∀ stored, kept = some stored → stored.kind ≠ kind → ∀ change,
    store.modify factories.counting a change (w, 0) = ((none, store), w, 0)

/-- A handle finds the value that was put through it. -/
theorem Represents.value?_put (h : store.Represents map) (a : Attribute kind) (value : kind.Carrier) :
    (store.put a value).value? a = some value := by
  have hkey : (store.put a value).keyOf a = store.keyOf a := by rw [keyOf, store.put_registry]
  rw [(h.put a value).value?_eq, hkey, Finmap.lookup_insert, Option.bind_some, StoredValue.as?_mk]

/-- Nothing is made where something is kept, or without a factory. -/
theorem Represents.materialize_counting_of_kept (h : store.Represents map) (a : Attribute kind)
    (hkept : a.hasFactory = true → store.keyOf a ∈ map) (factories : Factories W) (w : W) :
    store.materialize factories.counting a (w, 0) = (store, w, 0) := by
  cases hdefault : a.default with
  | factory make =>
    have hset : store.isSet a = true := (h.isSet_iff a).2 (hkept (by rw [Attribute.hasFactory, hdefault]))
    simp only [materialize, hdefault, if_pos hset]
    rfl
  | _ =>
    simp only [materialize, hdefault]
    rfl

/-- A factory makes a value where nothing is kept. -/
theorem Represents.materialize_counting_of_absent (h : store.Represents map)
    (habsent : store.keyOf a ∉ map) {make : FactoryRef} (hdefault : a.default = .factory make)
    (factories : Factories W) (w : W) :
    let made := factories kind make w
    store.materialize factories.counting a (w, 0) = (store.put a made.1, made.2, 1) := by
  have hset : ¬store.isSet a = true := fun hset ↦ habsent ((h.isSet_iff a).1 hset)
  simp only [materialize, hdefault, if_neg hset]
  rfl

/-- A read shows what is there once the factory was called, if it had to be. -/
theorem get_of_materialize {factories : Factories W} {made : AttributeStore} {w w' : W}
    (hmade : store.materialize factories a w = (made, w')) :
    store.get factories a w = ((made.peek a, made), w') := by
  simp only [get, bind, StateT.bind, hmade]
  rfl

/-- A change is made to what is there then. -/
theorem modify_of_materialize {factories : Factories W} {made : AttributeStore} {w w' : W}
    (hmade : store.materialize factories a w = (made, w')) {value : kind.Carrier}
    (hvalue : made.value? a = some value) (change : kind.Carrier → kind.Carrier) :
    store.modify factories a change w = ((some value, made.put a (change value)), w') := by
  simp only [modify, bind, StateT.bind, hmade, hvalue]
  rfl

/-- Where nothing of the kind is there even then, nothing is changed. -/
theorem modify_of_materialize_none {factories : Factories W} {made : AttributeStore} {w w' : W}
    (hmade : store.materialize factories a w = (made, w')) (hvalue : made.value? a = none)
    (change : kind.Carrier → kind.Carrier) :
    store.modify factories a change w = ((none, made), w') := by
  simp only [modify, bind, StateT.bind, hmade, hvalue]
  rfl

theorem peek_of_value? {value : kind.Carrier} (h : store.value? a = some value) :
    store.peek a = some value := by
  rw [peek, h, Option.some_or]

theorem peek_of_value?_none (h : store.value? a = none) : store.peek a = a.defaultValue? := by
  rw [peek, h, Option.none_or]

/-- **A store reads as what it keeps.** -/
theorem Represents.reads (h : store.Represents map) (factories : Factories W) (a : Attribute kind) (w : W) :
    store.Reads factories (map.lookup (store.keyOf a)) a w := by
  have hvalue := h.value?_eq a
  cases hkept : map.lookup (store.keyOf a) with
  | none =>
    have habsent : store.keyOf a ∉ map := Finmap.lookup_eq_none.1 hkept
    rw [hkept, Option.bind_none] at hvalue
    refine ⟨nofun, fun _ hfactory ↦ ?_, fun _ make hdefault ↦ ?_, nofun, nofun, fun _ hfactory change ↦ ?_,
      fun _ make hdefault change ↦ ?_, nofun⟩
    · have hmade := h.materialize_counting_of_kept a (by simp [hfactory]) factories w
      rw [get_of_materialize hmade, peek_of_value?_none hvalue]
    · have hmade := h.materialize_counting_of_absent habsent hdefault factories w
      rw [get_of_materialize hmade, peek_of_value? (h.value?_put a _)]
    · have hmade := h.materialize_counting_of_kept a (by simp [hfactory]) factories w
      rw [modify_of_materialize_none hmade hvalue]
    · have hmade := h.materialize_counting_of_absent habsent hdefault factories w
      rw [modify_of_materialize hmade (h.value?_put a _)]
  | some stored =>
    have hmem : store.keyOf a ∈ map := Finmap.mem_iff.2 ⟨stored, hkept⟩
    have hmade := h.materialize_counting_of_kept a (fun _ ↦ hmem) factories w
    rw [hkept, Option.bind_some] at hvalue
    refine ⟨fun value hstored ↦ ?_, nofun, nofun, fun other hother hkind ↦ ?_,
      fun value hstored change ↦ ?_, nofun, nofun, fun other hother hkind change ↦ ?_⟩
    · rw [Option.some.inj hstored, StoredValue.as?_mk] at hvalue
      rw [get_of_materialize hmade, peek_of_value? hvalue]
    · rw [Option.some.inj hother, StoredValue.as?_eq_none hkind] at hvalue
      rw [get_of_materialize hmade, peek_of_value?_none hvalue]
    · rw [Option.some.inj hstored, StoredValue.as?_mk] at hvalue
      rw [modify_of_materialize hmade hvalue]
    · rw [Option.some.inj hother, StoredValue.as?_eq_none hkind] at hvalue
      rw [modify_of_materialize_none hmade hvalue]

/-! ### One operation -/

/-- An operation that removes nothing and puts nothing leaves everything as it is. -/
theorem keep_of_puts?_none {registry : Option Nat} {moment : StoreMoment} {key : AttributeKey}
    (hdrops : moment.op.drops registry key = false) (hputs : moment.puts? = none)
    (kept : Option StoredValue) : moment.keep registry key kept = kept := by
  rw [StoreMoment.keep, hdrops, hputs, Option.none_or, if_neg Bool.false_ne_true, ite_self]

/-- What an operation puts under its key is kept there. -/
theorem lookup_insert_eq_keep {registry : Option Nat} {moment : StoreMoment} {key : AttributeKey}
    (hkey : moment.op.key? registry = some key) (hdrops : ∀ other, moment.op.drops registry other = false)
    {stored : StoredValue} (hputs : moment.puts? = some stored) (other : AttributeKey) :
    (map.insert key stored).lookup other = moment.keep registry other (map.lookup other) := by
  rw [StoreMoment.keep, hdrops, hputs, Option.some_or, if_neg Bool.false_ne_true, hkey]
  by_cases hother : key = other
  · rw [if_pos (congrArg some hother), ← hother, Finmap.lookup_insert]
  · rw [if_neg fun heq ↦ hother (Option.some.inj heq), Finmap.lookup_insert_of_ne _ (Ne.symm hother)]

/-- What an operation does to a store is told by its record. -/
structure Keeps (store : AttributeStore) (map : AttributeMap) (op : StoreOp) (moment : StoreMoment)
    (left : AttributeStore) (map' : AttributeMap) : Prop where
  op : moment.op = op
  typed : moment.Typed
  registry : left.registry = store.registry
  represents : left.Represents map'
  lookup : ∀ key, map'.lookup key = moment.keep store.registry key (map.lookup key)

/-- An operation that leaves a store as it is. -/
theorem Represents.keeps_self (h : store.Represents map) {op : StoreOp} {answer : StoreAnswer} {calls : Nat}
    (hdrops : ∀ key, op.drops store.registry key = false)
    (hputs : (StoreMoment.mk op answer calls).puts? = none) :
    store.Keeps map op ⟨op, answer, calls⟩ store map where
  op := rfl
  typed := StoreMoment.typed_of_puts?_none hputs
  registry := rfl
  represents := h
  lookup key := (keep_of_puts?_none (hdrops key) hputs _).symm

/-- An operation that puts a value through a handle. -/
theorem keeps_put {left : AttributeStore} {value : kind.Carrier}
    (hleft : left.Represents (map.insert (store.keyOf a) ⟨kind, value⟩))
    (hregistry : left.registry = store.registry) {op : StoreOp} {answer : StoreAnswer} {calls : Nat}
    (hop : op.handle? = some ⟨kind, a⟩) (hdrops : ∀ key, op.drops store.registry key = false)
    (hputs : (StoreMoment.mk op answer calls).puts? = some ⟨kind, value⟩) :
    store.Keeps map op ⟨op, answer, calls⟩ left (map.insert (store.keyOf a) ⟨kind, value⟩) where
  op := rfl
  typed := by
    intro stored hstored
    obtain rfl := Option.some.inj (hputs.symm.trans hstored)
    exact ⟨_, hop, rfl⟩
  registry := hregistry
  represents := hleft
  lookup := by
    have hkey : op.key? store.registry = some (store.keyOf a) := by rw [StoreOp.key?, hop, Option.map_some]
    exact lookup_insert_eq_keep hkey hdrops hputs

/-- Reading makes a value or changes nothing. -/
theorem Reads.get_cases {factories : Factories W} {kept : Option StoredValue} {w : W}
    (h : store.Reads factories kept a w) :
    (∃ value w', store.get factories.counting a (w, 0) = ((some value, store.put a value), w', 1)) ∨
      ∃ found, store.get factories.counting a (w, 0) = ((found, store), w, 0) := by
  cases kept with
  | none =>
    cases hdefault : a.default with
    | factory make => exact .inl ⟨_, _, h.get_made rfl make hdefault⟩
    | _ => exact .inr ⟨_, h.get_fixed rfl (by rw [Attribute.hasFactory, hdefault])⟩
  | some stored =>
    by_cases hkind : stored.kind = kind
    · subst hkind
      exact .inr ⟨_, h.get_stored _ rfl⟩
    · exact .inr ⟨_, h.get_other stored rfl hkind⟩

/-- A change is made to a value that was kept or is made now, or to none. -/
theorem Reads.modify_cases {factories : Factories W} {kept : Option StoredValue} {w : W}
    (h : store.Reads factories kept a w) (change : kind.Carrier → kind.Carrier) :
    (∃ value w', store.modify factories.counting a change (w, 0) =
        ((some value, (store.put a value).put a (change value)), w', 1)) ∨
      (∃ value, store.modify factories.counting a change (w, 0) =
        ((some value, store.put a (change value)), w, 0)) ∨
      store.modify factories.counting a change (w, 0) = ((none, store), w, 0) := by
  cases kept with
  | none =>
    cases hdefault : a.default with
    | factory make => exact .inl ⟨_, _, h.modify_made rfl make hdefault change⟩
    | _ => exact .inr (.inr (h.modify_fixed rfl (by rw [Attribute.hasFactory, hdefault]) change))
  | some stored =>
    by_cases hkind : stored.kind = kind
    · subst hkind
      exact .inr (.inl ⟨_, h.modify_stored _ rfl change⟩)
    · exact .inr (.inr (h.modify_other stored rfl hkind change))

/-- A handle with a default reads a value, unless a value of another kind hides what its factory makes. -/
theorem Reads.get_isSome_iff {factories : Factories W} {kept : Option StoredValue} {w : W}
    (h : store.Reads factories kept a w) (hdefault : a.default ≠ .absent) :
    (store.get factories.counting a (w, 0)).1.1.isSome ↔
      (a.hasFactory = true → ∀ stored, kept = some stored → stored.kind = kind) := by
  cases kept with
  | none =>
    refine iff_of_true ?_ fun _ _ hkept ↦ (Option.some_ne_none _ hkept.symm).elim
    cases hcase : a.default with
    | absent => contradiction
    | value v =>
      rw [h.get_fixed rfl (by rw [Attribute.hasFactory, hcase]), Attribute.defaultValue?, hcase]
      rfl
    | factory make =>
      rw [h.get_made rfl make hcase]
      rfl
  | some stored =>
    by_cases hkind : stored.kind = kind
    · subst hkind
      refine iff_of_true ?_ fun _ other hother ↦ congrArg _ (Option.some.inj hother).symm
      rw [h.get_stored _ rfl]
      rfl
    · rw [h.get_other stored rfl hkind, Attribute.defaultValue?, Attribute.hasFactory]
      cases hcase : a.default with
      | absent => contradiction
      | value v => exact iff_of_true rfl fun hfactory ↦ (Bool.false_ne_true hfactory).elim
      | factory make => exact iff_of_false Bool.false_ne_true fun hall ↦ hkind (hall rfl stored rfl)

/-- A handle with a factory has a value to change, unless a value of another kind hides it. -/
theorem Reads.modify_isSome_iff {factories : Factories W} {kept : Option StoredValue} {w : W}
    (h : store.Reads factories kept a w) (hfactory : a.hasFactory = true)
    (change : kind.Carrier → kind.Carrier) :
    (store.modify factories.counting a change (w, 0)).1.1.isSome ↔
      ∀ stored, kept = some stored → stored.kind = kind := by
  cases kept with
  | none =>
    refine iff_of_true ?_ fun _ hkept ↦ (Option.some_ne_none _ hkept.symm).elim
    cases hcase : a.default with
    | factory make =>
      rw [h.modify_made rfl make hcase]
      rfl
    | _ => simp [Attribute.hasFactory, hcase] at hfactory
  | some stored =>
    by_cases hkind : stored.kind = kind
    · subst hkind
      refine iff_of_true ?_ fun other hother ↦ congrArg _ (Option.some.inj hother).symm
      rw [h.modify_stored _ rfl]
      rfl
    · rw [h.modify_other stored rfl hkind]
      exact iff_of_false Bool.false_ne_true fun hall ↦ hkind (hall stored rfl)

/-- A value that is put twice through a handle is the one that was put last. -/
theorem Represents.put_put (h : store.Represents map) (a : Attribute kind) (value other : kind.Carrier) :
    ((store.put a value).put a other).Represents (map.insert (store.keyOf a) ⟨kind, other⟩) := by
  have hkey : (store.put a value).keyOf a = store.keyOf a := by rw [keyOf, store.put_registry]
  have hput := (h.put a value).put a other
  rwa [hkey, Finmap.insert_insert] at hput

/-- **One operation.** -/
theorem Represents.keeps_step (h : store.Represents map) (factories : Factories W) (op : StoreOp) (w : W) :
    ∃ moment left map' w', store.step factories op w = (moment, left, w') ∧
      store.Keeps map op moment left map' := by
  cases op with
  | @get kind a =>
    rcases (h.reads factories a w).get_cases with ⟨value, w', hget⟩ | ⟨found, hget⟩
    · refine ⟨⟨.get a, .value (some ⟨kind, value⟩), 1⟩, _, _, w', ?_,
        keeps_put (h.put a value) (store.put_registry a value) rfl (fun _ ↦ rfl) rfl⟩
      simp only [step, StoreOp.perform, bind, StateT.bind, hget]
      rfl
    · refine ⟨⟨.get a, .value (StoredValue.ofKind found), 0⟩, _, _, w, ?_,
        h.keeps_self (fun _ ↦ rfl) rfl⟩
      simp only [step, StoreOp.perform, bind, StateT.bind, hget]
      rfl
  | @modify kind a change =>
    have hchange : ∀ value, StoredValue.change change ⟨kind, value⟩ = ⟨kind, change value⟩ := fun value ↦
      StoredValue.change_eq (StoredValue.as?_mk kind value) change
    rcases (h.reads factories a w).modify_cases change with
      ⟨value, w', hmodify⟩ | ⟨value, hmodify⟩ | hmodify
    · refine ⟨⟨.modify a change, .value (some ⟨kind, value⟩), 1⟩, _, _, w', ?_,
        keeps_put (h.put_put a value (change value)) ?_ rfl (fun _ ↦ rfl) (congrArg some (hchange value))⟩
      · simp only [step, StoreOp.perform, bind, StateT.bind, hmodify]
        rfl
      · rw [put_registry, put_registry]
    · refine ⟨⟨.modify a change, .value (some ⟨kind, value⟩), 0⟩, _, _, w, ?_,
        keeps_put (h.put a (change value)) (store.put_registry a _) rfl (fun _ ↦ rfl)
          (congrArg some (hchange value))⟩
      simp only [step, StoreOp.perform, bind, StateT.bind, hmodify]
      rfl
    · refine ⟨⟨.modify a change, .value none, 0⟩, _, _, w, ?_, h.keeps_self (fun _ ↦ rfl) rfl⟩
      simp only [step, StoreOp.perform, bind, StateT.bind, hmodify]
      rfl
  | @set kind a value =>
    exact ⟨_, _, _, w, rfl, keeps_put (h.put a value) (store.put_registry a value) rfl (fun _ ↦ rfl) rfl⟩
  | @remove kind a =>
    refine ⟨_, _, _, w, rfl, rfl, StoreMoment.typed_of_puts?_none rfl, store.erase_registry a, h.erase a,
      fun key ↦ ?_⟩
    simp only [StoreMoment.keep, StoreOp.drops, StoreMoment.puts?, Option.none_or, ite_self,
      decide_eq_true_eq]
    by_cases hkey : store.keyOf a = key
    · rw [if_pos hkey, ← hkey, Finmap.lookup_erase]
    · rw [if_neg hkey, Finmap.lookup_erase_ne (Ne.symm hkey)]
  | clear =>
    exact ⟨_, _, _, w, rfl, rfl, StoreMoment.typed_of_puts?_none rfl, rfl, h.clear,
      fun key ↦ Finmap.lookup_empty key⟩
  | _ => exact ⟨_, _, _, w, rfl, h.keeps_self (fun _ ↦ rfl) rfl⟩

/-! ### Runs -/

/-- A run keeps what was stored last. -/
theorem Represents.keeps_run (h : store.Represents map) (factories : Factories W) (ops : List StoreOp)
    (w : W) :
    let run := store.run factories ops w
    run.moments.map StoreMoment.op = ops ∧ (∀ moment ∈ run.moments, moment.Typed) ∧
      run.left.registry = store.registry ∧
      ∃ map', run.left.Represents map' ∧ ∀ key, map'.lookup key =
        run.moments.foldl (fun kept moment ↦ moment.keep store.registry key kept) (map.lookup key) := by
  induction ops generalizing store map w with
  | nil => exact ⟨rfl, fun _ hmem ↦ absurd hmem List.not_mem_nil, rfl, map, h, fun _ ↦ rfl⟩
  | cons op ops ih =>
    obtain ⟨moment, left, map', w', hstep, hkeeps⟩ := h.keeps_step factories op w
    obtain ⟨hops, htyped, hregistry, last, hlast, hlookup⟩ := ih hkeeps.represents w'
    have hrun : store.run factories (op :: ops) w =
        { left.run factories ops w' with moments := moment :: (left.run factories ops w').moments } := by
      simp only [run, StoreRun.of, hstep]
    rw [hrun]
    refine ⟨congrArg₂ List.cons hkeeps.op hops, List.forall_mem_cons.2 ⟨hkeeps.typed, htyped⟩,
      hregistry.trans hkeeps.registry, last, hlast, fun key ↦ ?_⟩
    rw [hlookup, List.foldl_cons, hkeeps.lookup, hkeeps.registry]

/-- How a handle reads a store after a run of operations. -/
structure ReadsLast (factories : Factories W) (store : AttributeStore) (ops : List StoreOp)
    (a : Attribute kind) (w : W) : Prop where
  /-- The handle reads what was stored last under its key. -/
  reads : let run := store.run factories ops w
    run.left.Reads factories (lastStored store.registry (store.keyOf a) run.moments) a run.world
  /-- A handle with a default reads a value, unless it has a factory and a value of another kind was stored
  last. -/
  get_isSome : let run := store.run factories ops w
    a.default ≠ .absent →
      ((run.left.get factories.counting a (run.world, 0)).1.1.isSome ↔
        (a.hasFactory = true → ∀ stored,
          lastStored store.registry (store.keyOf a) run.moments = some stored → stored.kind = kind))
  /-- So a handle with a factory has a value to change. -/
  modify_isSome : let run := store.run factories ops w
    a.hasFactory = true → ∀ change,
      ((run.left.modify factories.counting a change (run.world, 0)).1.1.isSome ↔
        ∀ stored, lastStored store.registry (store.keyOf a) run.moments = some stored → stored.kind = kind)
  /-- A value of another kind was stored through a handle of the same name, where values are kept by
  name. -/
  exists_handle : ∀ stored,
    lastStored store.registry (store.keyOf a) (store.run factories ops w).moments = some stored →
      stored.kind ≠ kind →
      store.owns a = false ∧ ∃ b ∈ ops.filterMap StoreOp.handle?,
        b.1 = stored.kind ∧ store.owns b.2 = false ∧ b.2.name = a.name

/-- Handles of one key are of one kind, or the key is a name. -/
theorem owns_eq_false_of_kind_ne {registries : Registries} (ha : registries.Issues a) {kind' : ValueKind}
    {b : Attribute kind'} (hb : registries.Issues b) (hkey : store.keyOf b = store.keyOf a)
    (hkind : kind' ≠ kind) : store.owns a = false ∧ store.owns b = false ∧ b.name = a.name := by
  by_cases howns : store.owns a = true <;> by_cases howns' : store.owns b = true
  · rw [keyOf_of_owns howns, keyOf_of_owns howns'] at hkey
    have hregistry : some b.registry = some a.registry :=
      (beq_iff_eq.1 howns').symm.trans (beq_iff_eq.1 howns)
    exact absurd (Registries.kind_eq hb ha (Option.some.inj hregistry) (AttributeKey.slot.inj hkey)) hkind
  · rw [keyOf_of_owns howns, keyOf_of_not_owns howns'] at hkey
    contradiction
  · rw [keyOf_of_not_owns howns, keyOf_of_owns howns'] at hkey
    contradiction
  · rw [keyOf_of_not_owns howns, keyOf_of_not_owns howns'] at hkey
    exact ⟨by simpa using howns, by simpa using howns', AttributeKey.name.inj hkey⟩

/-- **A handle reads what was stored last.** Whatever is done to a new store through handles of whatever
registries, a handle then reads the value that was stored last under its key, if there is one of its kind,
and else its default; a factory is called only where nothing is kept, and what it makes is stored. A handle
with a default reads nothing in one case only: it has a factory, and a value of another kind was stored
through a handle of the same name, where values are kept by name. -/
theorem reads_run {registries : Registries} (hopens : registries.Opens store) {ops : List StoreOp}
    (hissued : ∀ b ∈ ops.filterMap StoreOp.handle?, registries.Issues b.2) (ha : registries.Issues a)
    (factories : Factories W) (w : W) : store.ReadsLast factories ops a w := by
  obtain ⟨hops, htyped, hregistry, map', hrepresents, hlookup⟩ :=
    hopens.represents.keeps_run factories ops w
  have hreads := hrepresents.reads factories a (store.run factories ops w).world
  have hkey : (store.run factories ops w).left.keyOf a = store.keyOf a := by rw [keyOf, hregistry]
  rw [hkey, hlookup, Finmap.lookup_empty] at hreads
  refine ⟨hreads, hreads.get_isSome_iff, hreads.modify_isSome_iff, fun stored hstored hkind ↦ ?_⟩
  obtain ⟨b, hmem, hbkey, hbkind⟩ := exists_handle_of_lastStored htyped hstored
  rw [hops] at hmem
  obtain ⟨howns, howns', hname⟩ :=
    owns_eq_false_of_kind_ne ha (hissued b hmem) hbkey fun heq ↦ hkind (hbkind.trans heq)
  exact ⟨howns, b, hmem, hbkind.symm, howns', hname⟩

end AttributeStore

/-! ### Two kinds under one name -/

namespace Notes

/-- The first registry declares "note" as a text. -/
def texts : Registry :=
  (Registry.declare "note" (.absent : AttributeDefault .text) (.new 1 1)).2

/-- The second registry declares it as a number that a factory makes. -/
def numbers : Registry :=
  (Registry.declare "note" (.factory ⟨0⟩ : AttributeDefault .unsigned64) (.new 2 1)).2

/-- The two registries, and no other declarations. -/
def registries : Registries where
  registry id := if id = 1 then texts else if id = 2 then numbers else .new id 0
  grown id := by
    split
    · next heq => exact heq ▸ ⟨1, .declare .refl _ _⟩
    · split
      · next heq => exact heq ▸ ⟨1, .declare .refl _ _⟩
      · exact ⟨0, .refl⟩

/-- The note as a text. -/
def text : Attribute .text :=
  ⟨0, "note", 1, .absent⟩

/-- The note as a number. -/
def number : Attribute .unsigned64 :=
  ⟨0, "note", 2, .factory ⟨0⟩⟩

/-- The text is given out by its own registry. -/
theorem issues_text : registries.Issues text :=
  @Registries.Issues.declared registries _ _ (.new 1 1) "note" .absent ⟨1, .refl⟩ rfl .refl

theorem issues_number : registries.Issues number :=
  @Registries.Issues.declared registries _ _ (.new 2 1) "note" (.factory ⟨0⟩) ⟨1, .refl⟩ rfl .refl

theorem issues_of_mem_set (value : String) :
    ∀ b ∈ [StoreOp.set text value].filterMap StoreOp.handle?, registries.Issues b.2 := by
  intro b hmem
  obtain rfl := List.mem_singleton.1 hmem
  exact issues_text

end Notes

namespace AttributeStore

/-- A text hides the number that a factory would make. -/
theorem reads_run_notes :
    let factories := FactoryValues.plain.factories Unit
    let ops := [StoreOp.set Notes.text "x"]
    let run := detached.run factories ops ()
    Notes.registries.Opens detached ∧
      (∀ b ∈ ops.filterMap StoreOp.handle?, Notes.registries.Issues b.2) ∧
      Notes.registries.Issues Notes.number ∧ detached.ReadsLast factories ops Notes.number () ∧
      (run.left.get factories.counting Notes.number (run.world, 0)).1.1 = none ∧
      (run.left.modify factories.counting Notes.number (· + 1) (run.world, 0)).1.1 = none :=
  ⟨.detached, Notes.issues_of_mem_set "x", Notes.issues_number,
    reads_run .detached (Notes.issues_of_mem_set "x") Notes.issues_number _ _, rfl, rfl⟩

/-- So it is not true that a handle with a factory always reads a value. -/
theorem not_forall_get_isSome :
    ¬ ∀ (registries : Registries) (store : AttributeStore) (ops : List StoreOp) (kind : ValueKind)
      (a : Attribute kind), registries.Opens store →
      (∀ b ∈ ops.filterMap StoreOp.handle?, registries.Issues b.2) → registries.Issues a →
      a.hasFactory = true →
      let factories := FactoryValues.plain.factories Unit
      let run := store.run factories ops ()
      (run.left.get factories a run.world).1.1.isSome = true := by
  intro hall
  exact Bool.false_ne_true (hall Notes.registries detached [.set Notes.text "x"] _ Notes.number .detached
    (Notes.issues_of_mem_set "x") Notes.issues_number rfl)

end AttributeStore

end Conduit
