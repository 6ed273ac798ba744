import Conduit.Proofs.Attribute.Declare
import Conduit.Worker.Cache
import Mathlib.Logic.Function.Basic

/-!
# Object caches act as stacks

A cache keeps objects by the index of their type, in lists that know of which kind their objects are,
and a registry gives out the indices, by name. To its users a cache is a stack for each name, and no
stack gets higher than the bound. Registrations and operations, in any order, are run by one definition
(`ObjectStore.run`) for both ways of keeping objects: by index (`ObjectStore.cache`) and by name
(`ObjectStore.byName`). The answers are the same (`ObjectCache.acts_as_stacks`).

On a stack nobody asks for the kind of an object. That a cache never finds a list of another kind under
an index comes from the registry, which never gives an index to a second name or a second kind; the
invariant (`ObjectCache.Holds`) is one of the registry and the cache together.
-/

namespace Conduit

/-! ### Operations -/

/-- A key for objects of some kind. -/
abbrev AnyCacheKey := (kind : ValueKind) × CacheKey kind

/-- A registration, or an operation on a cache. -/
inductive CacheOp where
  | register (kind : ValueKind) (name : String)
  | put {kind : ValueKind} (key : CacheKey kind) (object : kind.Carrier)
  | take {kind : ValueKind} (key : CacheKey kind)
  | lengthOf {kind : ValueKind} (key : CacheKey kind)
  | clear

/-- What a registration or an operation on a cache answers. -/
inductive CacheAnswer where
  | key (answer : Except AttributeError AnyCacheKey)
  | kept (isKept : Bool)
  | object (found : Option StoredValue)
  | count (n : Nat)
  | done

/-- The key through which an operation is carried out. -/
def CacheOp.key? : CacheOp → Option AnyCacheKey
  | put key _ | take key | lengthOf key => some ⟨_, key⟩
  | register .. | clear => none

/-- The key that was given out. -/
def CacheAnswer.key? : CacheAnswer → Option AnyCacheKey
  | key (.ok given) => some given
  | _ => none

/-- A way of keeping objects. -/
structure ObjectStore (C : Type) where
  /-- Whether the object was kept, and what is kept then. -/
  put : {kind : ValueKind} → CacheKey kind → kind.Carrier → C → Bool × C
  /-- The object that is taken out, and what is kept then. -/
  take : {kind : ValueKind} → CacheKey kind → C → Option StoredValue × C
  lengthOf : {kind : ValueKind} → CacheKey kind → C → Nat
  clear : C → C

/-- What a run of registrations and operations came to. -/
structure CacheRun (C : Type) where
  /-- What was asked for and answered, one after another. -/
  history : List (CacheOp × CacheAnswer)
  /-- The registry of the types of objects. -/
  registry : Registry
  /-- What is kept. -/
  objects : C

namespace CacheRun

variable {C : Type}

/-- Nothing has been done, and no type is registered. -/
def start (id slotLimit : Nat) (objects : C) : CacheRun C :=
  ⟨[], .new id slotLimit, objects⟩

/-- The keys that were given out. -/
def keys (run : CacheRun C) : List AnyCacheKey :=
  run.history.filterMap fun moment ↦ moment.2.key?

end CacheRun

namespace ObjectStore

variable {C : Type}

/-- What an operation answers, and what is registered and kept then. -/
def perform (store : ObjectStore C) (registry : Registry) (objects : C) :
    CacheOp → CacheAnswer × Registry × C
  | .register kind name =>
    let (answer, registry) := CacheKey.register kind name registry
    (.key (answer.map (Sigma.mk kind)), registry, objects)
  | .put key object =>
    let (isKept, objects) := store.put key object objects
    (.kept isKept, registry, objects)
  | .take key =>
    let (found, objects) := store.take key objects
    (.object found, registry, objects)
  | .lengthOf key => (.count (store.lengthOf key objects), registry, objects)
  | .clear => (.done, registry, store.clear objects)

/-- Goes on by one registration or operation. -/
def step (store : ObjectStore C) (run : CacheRun C) (op : CacheOp) : CacheRun C :=
  let (answer, registry, objects) := store.perform run.registry run.objects op
  ⟨run.history ++ [(op, answer)], registry, objects⟩

/-- Goes on by registrations and operations, one after another. -/
def run (store : ObjectStore C) (start : CacheRun C) (ops : List CacheOp) : CacheRun C :=
  ops.foldl store.step start

/-- Objects kept in a cache. -/
def cache : ObjectStore ObjectCache where
  put := ObjectCache.put
  take key cache :=
    let (found, left) := ObjectCache.take key cache
    (found.map (StoredValue.mk _), left)
  lengthOf key cache := cache.lengthOf key
  clear := ObjectCache.clear

/-- Every operation is carried out through a key that was given out before. -/
def KeysGiven : CacheRun ObjectCache → List CacheOp → Prop
  | _, [] => True
  | run, op :: ops => (∀ key ∈ op.key?, key ∈ run.keys) ∧ KeysGiven (cache.step run op) ops

/-- Objects kept in stacks of bounded height, one for each name. -/
def byName (bound : Nat) : ObjectStore (String → List StoredValue) where
  put {kind} key object stack :=
    if (stack key.name).length < bound then
      (true, Function.update stack key.name (⟨kind, object⟩ :: stack key.name))
    else (false, stack)
  take key stack := ((stack key.name).head?, Function.update stack key.name (stack key.name).tail)
  lengthOf key stack := (stack key.name).length
  clear _ := fun _ ↦ []

end ObjectStore

/-! ### Keys and the registry that gives them out -/

namespace Registry

variable {registry : Registry} {kind kind' : ValueKind} {a : Attribute kind} {b : Attribute kind'}

/-- Handles that a registry shows share a slot when they share a name. -/
theorem Shows.index_eq_iff (ha : registry.Shows a) (hb : registry.Shows b)
    (hindexed : registry.Indexed) : a.index = b.index ↔ a.name = b.name := by
  refine ⟨fun hindex ↦ ?_, hindexed.index_eq ha.slot hb.slot⟩
  have hslot := ha.slot
  rw [hindex, hb.slot] at hslot
  exact (congrArg Descriptor.name (Option.some.inj hslot)).symm

/-- The slot behind a key has the name under which its type was registered. -/
theorem Shows.exists_name_eq (h : registry.Shows a) : ∃ d ∈ registry.slots, d.name = a.name :=
  ⟨_, List.mem_of_getElem? h.slot, rfl⟩

end Registry

/-! ### Lists of objects -/

namespace ObjectCache

variable {cache : ObjectCache} {kind : ValueKind} {key : CacheKey kind} {index : Nat}

/-- The list under an index, if there is one yet. -/
def listAt? (cache : ObjectCache) (index : Nat) : Option CacheList :=
  (cache.lists[index]?).join

/-- The objects under an index, the last one first. -/
def keptAt (cache : ObjectCache) (index : Nat) : List StoredValue :=
  match cache.listAt? index with
  | some list => list.objects.map (StoredValue.mk list.kind)
  | none => []

/-- The list under the index of a key, if there is one, is of the kind of the key. -/
def Suits (cache : ObjectCache) (key : CacheKey kind) : Prop :=
  ∀ list, cache.listAt? key.index = some list → list.kind = kind

/-- The list of a key is replaced, or put in place if there was none. -/
theorem listAt?_setObjects_self (cache : ObjectCache) (key : CacheKey kind)
    (objects : List kind.Carrier) :
    (cache.setObjects key objects).listAt? key.index = some ⟨kind, objects⟩ := by
  rw [listAt?, setObjects, List.getElem?_set_self, Option.join_some]
  rw [List.length_append, List.length_replicate]
  omega

/-- Lists that are provided for are none yet. -/
theorem listAt?_setObjects_ne (cache : ObjectCache) (objects : List kind.Carrier)
    (h : index ≠ key.index) : (cache.setObjects key objects).listAt? index = cache.listAt? index := by
  rw [listAt?, setObjects, List.getElem?_set_ne h.symm, listAt?]
  rcases Nat.lt_or_ge index cache.lists.length with hlt | hge
  · rw [List.getElem?_append_left hlt]
  · rw [List.getElem?_append_right hge, List.getElem?_eq_none hge, List.getElem?_replicate]
    split <;> rfl

theorem keptAt_setObjects_self (cache : ObjectCache) (key : CacheKey kind)
    (objects : List kind.Carrier) :
    (cache.setObjects key objects).keptAt key.index = objects.map (StoredValue.mk kind) := by
  rw [keptAt, listAt?_setObjects_self]

theorem keptAt_setObjects_ne (cache : ObjectCache) (objects : List kind.Carrier)
    (h : index ≠ key.index) : (cache.setObjects key objects).keptAt index = cache.keptAt index := by
  rw [keptAt, listAt?_setObjects_ne cache objects h, keptAt]

/-- A list is looked up by its index, and given out only if it is of the kind of the key. -/
theorem objects?_eq (cache : ObjectCache) (key : CacheKey kind) :
    cache.objects? key = (cache.listAt? key.index).bind fun list ↦
      if h : list.kind = kind then some (h ▸ list.objects) else none :=
  rfl

/-- No list that suits its key is taken for a foreign one. -/
theorem Suits.isForeign_eq (h : cache.Suits key) : cache.isForeign key = false := by
  rw [isForeign, objects?_eq]
  show ((cache.listAt? key.index).isSome && _) = false
  cases hlist : cache.listAt? key.index with
  | none => rfl
  | some list =>
    rw [Option.bind_some, dif_pos (h list hlist)]
    rfl

/-- Where no list is of another kind, all objects that are kept under the index are found. -/
theorem Suits.map_objects? (h : cache.Suits key) :
    ((cache.objects? key).getD []).map (StoredValue.mk kind) = cache.keptAt key.index := by
  rw [objects?_eq, keptAt]
  cases hlist : cache.listAt? key.index with
  | none => rfl
  | some list =>
    obtain ⟨kind', objects⟩ := list
    obtain rfl : kind' = kind := h _ hlist
    rw [Option.bind_some, dif_pos rfl]
    rfl

/-- An object is put on the list of its key unless the list is full. -/
theorem Suits.put_eq (h : cache.Suits key) (object : kind.Carrier) :
    ObjectCache.put key object cache =
      if (cache.keptAt key.index).length < cache.maxPerType then
        (true, cache.setObjects key (object :: (cache.objects? key).getD []))
      else (false, cache.setObjects key ((cache.objects? key).getD [])) := by
  have hlength : (cache.keptAt key.index).length = ((cache.objects? key).getD []).length := by
    rw [← h.map_objects?, List.length_map]
  simp only [ObjectCache.put, bind, StateT.bind, get, getThe, MonadStateOf.get, StateT.get, pure,
    h.isForeign_eq, hlength, Bool.false_eq_true, if_false]
  rcases Nat.lt_or_ge ((cache.objects? key).getD []).length cache.maxPerType with hlt | hge
  · rw [if_pos hlt, if_neg (Nat.not_le.2 hlt)]
    rfl
  · rw [if_neg (Nat.not_lt.2 hge), if_pos hge]
    rfl

theorem take_of_cons {object : kind.Carrier} {rest : List kind.Carrier}
    (h : (cache.objects? key).getD [] = object :: rest) :
    ObjectCache.take key cache = (some object, cache.setObjects key rest) := by
  simp only [ObjectCache.take, bind, StateT.bind, get, getThe, MonadStateOf.get, StateT.get, pure]
  rcases hobjects : cache.objects? key with - | objects
  · rw [hobjects] at h
    contradiction
  · rw [hobjects, Option.getD_some] at h
    rw [h]
    rfl

theorem take_of_nil (h : (cache.objects? key).getD [] = []) :
    ObjectCache.take key cache = (none, cache) := by
  simp only [ObjectCache.take, bind, StateT.bind, get, getThe, MonadStateOf.get, StateT.get, pure]
  rcases hobjects : cache.objects? key with - | objects
  · rfl
  · rw [hobjects, Option.getD_some] at h
    rw [h]
    rfl

/-! ### Caches that stand for stacks -/

/-- Under the indices of a registry, a cache keeps what is on the stacks of the names. -/
structure Holds (bound : Nat) (registry : Registry) (cache : ObjectCache)
    (stack : String → List StoredValue) : Prop where
  maxPerType_eq : cache.maxPerType = bound
  /-- A list is of the kind for which its index was given out. -/
  kinds : ∀ index list, cache.listAt? index = some list →
    ∃ d, registry.descriptor? index = some d ∧ d.kind = .cacheSlot list.kind
  kept : ∀ index d, registry.descriptor? index = some d → cache.keptAt index = stack d.name
  /-- Nothing is on the stack of a name that is not registered. -/
  known : ∀ name, stack name ≠ [] → ∃ d ∈ registry.slots, d.name = name
  bounded : ∀ name, (stack name).length ≤ bound

section Holds

variable {bound : Nat} {registry : Registry} {stack : String → List StoredValue}

/-- **The lists of a cache suit its keys**: an index was given out for one kind only. -/
theorem Holds.suits (h : Holds bound registry cache stack) (hkey : registry.Shows key.slot) :
    cache.Suits key := by
  intro list hlist
  obtain ⟨d, hd, hkind⟩ := h.kinds _ _ hlist
  obtain rfl := Option.some.inj (hkey.slot.symm.trans hd)
  exact (ValueKind.cacheSlot.inj hkind).symm

/-- Under its index a key has the stack of its name. -/
theorem Holds.keptAt_eq (h : Holds bound registry cache stack) (hkey : registry.Shows key.slot) :
    cache.keptAt key.index = stack key.name :=
  h.kept _ _ hkey.slot

theorem Holds.map_objects? (h : Holds bound registry cache stack) (hkey : registry.Shows key.slot) :
    ((cache.objects? key).getD []).map (StoredValue.mk kind) = stack key.name := by
  rw [(h.suits hkey).map_objects?, h.keptAt_eq hkey]

/-- The objects of one key change, and with them the stack of its name. -/
theorem Holds.setObjects (h : Holds bound registry cache stack) (hkey : registry.Shows key.slot)
    (hindexed : registry.Indexed) {objects : List kind.Carrier} (hbound : objects.length ≤ bound) :
    Holds bound registry (cache.setObjects key objects)
      (Function.update stack key.name (objects.map (StoredValue.mk kind))) := by
  refine ⟨h.maxPerType_eq, fun index list hlist ↦ ?_, fun index d hd ↦ ?_, fun name hname ↦ ?_,
    fun name ↦ ?_⟩
  · rcases eq_or_ne index key.index with rfl | hne
    · rw [listAt?_setObjects_self] at hlist
      obtain rfl := Option.some.inj hlist
      exact ⟨_, hkey.slot, rfl⟩
    · rw [listAt?_setObjects_ne cache objects hne] at hlist
      exact h.kinds index list hlist
  · rcases eq_or_ne index key.index with rfl | hne
    · obtain rfl := Option.some.inj (hkey.slot.symm.trans hd)
      rw [keptAt_setObjects_self]
      exact (Function.update_self key.name _ stack).symm
    · have hname : d.name ≠ key.name := fun hname ↦ hne (hindexed.index_eq hd hkey.slot hname)
      rw [keptAt_setObjects_ne cache objects hne, Function.update_of_ne hname, h.kept index d hd]
  · rcases eq_or_ne name key.name with rfl | hne
    · exact hkey.exists_name_eq
    · rw [Function.update_of_ne hne] at hname
      exact h.known name hname
  · by_cases hname : name = key.name
    · rwa [hname, Function.update_self, List.length_map]
    · rw [Function.update_of_ne hname]
      exact h.bounded name

theorem holds_new (bound : Nat) (registry : Registry) :
    Holds bound registry (.new bound) fun _ ↦ [] where
  maxPerType_eq := rfl
  kinds _ _ := nofun
  kept _ _ _ := rfl
  known _ h := absurd rfl h
  bounded _ := Nat.zero_le _

theorem Holds.clear (h : Holds bound registry cache stack) :
    Holds bound registry cache.clear fun _ ↦ [] :=
  h.maxPerType_eq ▸ holds_new cache.maxPerType registry

theorem Holds.keptAt_of_none (h : Holds bound registry cache stack)
    (hnone : registry.descriptor? index = none) : cache.keptAt index = [] := by
  rw [keptAt]
  cases hlist : cache.listAt? index with
  | none => rfl
  | some list =>
    obtain ⟨d, hd, -⟩ := h.kinds index list hlist
    rw [hnone] at hd
    contradiction

/-- Nothing is kept under a name that is not registered. -/
theorem Holds.stack_of_none (h : Holds bound registry cache stack) (hindexed : registry.Indexed)
    {name : String} (hnone : registry.resolve? name = none) : stack name = [] := by
  by_contra hsome
  obtain ⟨d, hd, hname⟩ := h.known name hsome
  rw [hindexed.resolve?_eq_some_iff.2 ⟨hd, hname⟩] at hnone
  contradiction

/-- A new name gets an index under which nothing is kept, and nothing is on its stack. -/
theorem Holds.declare (h : Holds bound registry cache stack) (hindexed : registry.Indexed)
    {kind : ValueKind} (name : String) (default : AttributeDefault kind) :
    Holds bound (Registry.declare name default registry).2 cache stack := by
  cases hresolve : registry.resolve? name with
  | some d => rwa [Registry.declare_of_known hresolve]
  | none =>
    rcases Nat.lt_or_ge registry.length registry.slotLimit with hfree | hfull
    · rw [Registry.declare_of_free hresolve hfree]
      refine ⟨h.maxPerType_eq, fun index list hlist ↦ ?_, fun index d hd ↦ ?_, fun other hother ↦ ?_,
        h.bounded⟩
      · obtain ⟨d, hd, hkind⟩ := h.kinds index list hlist
        exact ⟨d, Registry.descriptor?_add_eq_some_iff.2 (.inl hd), hkind⟩
      · rcases Registry.descriptor?_add_eq_some_iff.1 hd with hold | ⟨rfl, rfl⟩
        · exact h.kept index d hold
        · have hnone : registry.descriptor? registry.length = none :=
            List.getElem?_eq_none (Nat.le_refl _)
          rw [h.keptAt_of_none hnone, h.stack_of_none hindexed hresolve]
      · obtain ⟨d, hd, hname⟩ := h.known other hother
        exact ⟨d, List.mem_append_left _ hd, hname⟩
    · rwa [Registry.declare_of_full hresolve hfull]

/-- **An object is put on the stack of its name**, if the bound allows. -/
theorem Holds.put (h : Holds bound registry cache stack) (hkey : registry.Shows key.slot)
    (hindexed : registry.Indexed) (object : kind.Carrier) :
    (ObjectStore.cache.put key object cache).1 = ((ObjectStore.byName bound).put key object stack).1 ∧
      Holds bound registry (ObjectStore.cache.put key object cache).2
        ((ObjectStore.byName bound).put key object stack).2 := by
  have hobjects := h.map_objects? hkey
  have hlength : ((cache.objects? key).getD []).length = (stack key.name).length := by
    rw [← hobjects, List.length_map]
  have hput : ObjectStore.cache.put key object cache = ObjectCache.put key object cache := rfl
  rw [hput, (h.suits hkey).put_eq, h.keptAt_eq hkey, h.maxPerType_eq]
  simp only [ObjectStore.byName]
  split
  · next hroom =>
    refine ⟨rfl, ?_⟩
    rw [← hobjects, ← List.map_cons]
    exact h.setObjects hkey hindexed (by rwa [List.length_cons, hlength])
  · have hleft := h.setObjects hkey hindexed (hlength ▸ h.bounded key.name)
    rw [hobjects, Function.update_eq_self] at hleft
    exact ⟨rfl, hleft⟩

/-- **An object is taken from the stack of its name**, the last one first. -/
theorem Holds.take (h : Holds bound registry cache stack) (hkey : registry.Shows key.slot)
    (hindexed : registry.Indexed) :
    (ObjectStore.cache.take key cache).1 = ((ObjectStore.byName bound).take key stack).1 ∧
      Holds bound registry (ObjectStore.cache.take key cache).2
        ((ObjectStore.byName bound).take key stack).2 := by
  have hobjects := h.map_objects? hkey
  have hbounded := h.bounded key.name
  simp only [ObjectStore.cache, ObjectStore.byName]
  rw [← hobjects] at hbounded ⊢
  rcases hgot : (cache.objects? key).getD [] with - | ⟨object, rest⟩
  · rw [hgot, List.map_nil] at hobjects
    have hleft : Function.update stack key.name [] = stack := by
      rw [hobjects, Function.update_eq_self]
    rw [take_of_nil hgot, List.map_nil, List.tail_nil, hleft]
    exact ⟨rfl, h⟩
  · rw [hgot, List.length_map] at hbounded
    rw [take_of_cons hgot]
    exact ⟨rfl, h.setObjects hkey hindexed (Nat.le_of_succ_le hbounded)⟩

theorem Holds.lengthOf_eq (h : Holds bound registry cache stack) (hkey : registry.Shows key.slot) :
    cache.lengthOf key = (stack key.name).length := by
  rw [← h.map_objects? hkey, List.length_map, lengthOf]

end Holds

/-! ### Runs -/

/-- A run of a cache and one of stacks agree. -/
structure Agree (bound : Nat) (indexed : CacheRun ObjectCache)
    (named : CacheRun (String → List StoredValue)) : Prop where
  history_eq : indexed.history = named.history
  registry_eq : indexed.registry = named.registry
  tied : indexed.registry.Indexed
  shown : ∀ key ∈ indexed.keys, indexed.registry.Shows key.2.slot
  /-- Keys are of the kind and the name that were registered. -/
  registered : ∀ kind name key, (.register kind name, .key (.ok key)) ∈ indexed.history →
    key.1 = kind ∧ key.2.name = name
  holds : Holds bound indexed.registry indexed.objects named.objects

section Agree

variable {bound : Nat} {indexed : CacheRun ObjectCache} {named : CacheRun (String → List StoredValue)}

theorem agree_start (bound id slotLimit : Nat) :
    Agree bound (.start id slotLimit (.new bound)) (.start id slotLimit fun _ ↦ []) where
  history_eq := rfl
  registry_eq := rfl
  tied := Registry.indexed_new id slotLimit
  shown _ := nofun
  registered _ _ _ := nofun
  holds := holds_new bound _

/-- A type is registered by declaring a slot for it. -/
theorem register_eq (kind : ValueKind) (name : String) (registry : Registry) :
    CacheKey.register kind name registry =
      let declared := Registry.declare name (.absent : AttributeDefault (.cacheSlot kind)) registry
      (declared.1.map CacheKey.mk, declared.2) :=
  rfl

/-- What is registered goes on being shown, and a new key is shown under its name. -/
theorem Agree.register (h : Agree bound indexed named) (kind : ValueKind) (name : String) :
    Agree bound (ObjectStore.cache.step indexed (.register kind name))
      ((ObjectStore.byName bound).step named (.register kind name)) := by
  have hgrows : indexed.registry.Grows
      (Registry.declare name (.absent : AttributeDefault (.cacheSlot kind)) indexed.registry).2 :=
    .declare .refl name _
  have hgiven : ∀ slot,
      (Registry.declare name (.absent : AttributeDefault (.cacheSlot kind)) indexed.registry).1 = .ok slot →
        (Registry.declare name (.absent : AttributeDefault (.cacheSlot kind)) indexed.registry).2.Shows
          slot ∧ slot.name = name :=
    fun _ ↦ Registry.shows_of_declare h.tied
  have hholds := h.holds.declare h.tied name (.absent : AttributeDefault (.cacheSlot kind))
  simp only [ObjectStore.step, ObjectStore.perform, register_eq, ← h.registry_eq]
  generalize Registry.declare name (.absent : AttributeDefault (.cacheSlot kind)) indexed.registry =
    declared at *
  obtain ⟨answer, grown⟩ := declared
  refine ⟨by rw [h.history_eq], rfl, hgrows.indexed h.tied, fun key hmem ↦ ?_, fun kind' name' key hmem ↦ ?_, hholds⟩
  · rw [CacheRun.keys, List.filterMap_append, List.mem_append] at hmem
    rcases hmem with hold | hnew
    · exact (h.shown key hold).grows hgrows
    · cases answer with
      | error refusal => cases hnew
      | ok slot =>
        obtain rfl := List.mem_singleton.1 hnew
        exact (hgiven slot rfl).1
  · rcases List.mem_append.1 hmem with hold | hnew
    · exact h.registered kind' name' key hold
    · cases answer with
      | error refusal => cases List.mem_singleton.1 hnew
      | ok slot =>
        cases List.mem_singleton.1 hnew
        exact ⟨rfl, (hgiven slot rfl).2⟩

/-- An operation that gives out no key leaves the registry, so it is only about what is kept. -/
theorem Agree.operate (h : Agree bound indexed named) (op : CacheOp) {answer : CacheAnswer}
    (hkey : answer.key? = none) {cache : ObjectCache} {stack : String → List StoredValue}
    (hholds : Holds bound indexed.registry cache stack) :
    Agree bound ⟨indexed.history ++ [(op, answer)], indexed.registry, cache⟩
      ⟨named.history ++ [(op, answer)], named.registry, stack⟩ := by
  refine ⟨congrArg (· ++ [(op, answer)]) h.history_eq, h.registry_eq, h.tied, fun key hmem ↦ ?_, fun kind name key hmem ↦ ?_, hholds⟩
  · rw [CacheRun.keys, List.filterMap_append, List.mem_append] at hmem
    rcases hmem with hold | hnew
    · exact h.shown key hold
    · obtain ⟨moment, hmoment, hgiven⟩ := List.mem_filterMap.1 hnew
      obtain rfl := List.mem_singleton.1 hmoment
      cases hkey.symm.trans hgiven
  · rcases List.mem_append.1 hmem with hold | hnew
    · exact h.registered kind name key hold
    · cases List.mem_singleton.1 hnew
      cases hkey

/-- **One step** keeps the runs in agreement, if it is through a key that was given out. -/
theorem Agree.step (h : Agree bound indexed named) {op : CacheOp}
    (hkey : ∀ key ∈ op.key?, key ∈ indexed.keys) :
    Agree bound (ObjectStore.cache.step indexed op) ((ObjectStore.byName bound).step named op) := by
  cases op with
  | register kind name => exact h.register kind name
  | put key object =>
    obtain ⟨hkept, hholds⟩ := h.holds.put (h.shown _ (hkey _ rfl)) h.tied object
    simp only [ObjectStore.step, ObjectStore.perform]
    rw [← hkept]
    exact h.operate _ rfl hholds
  | take key =>
    obtain ⟨hfound, hholds⟩ := h.holds.take (h.shown _ (hkey _ rfl)) h.tied
    simp only [ObjectStore.step, ObjectStore.perform]
    rw [← hfound]
    exact h.operate _ rfl hholds
  | lengthOf key =>
    have hlength : ObjectStore.cache.lengthOf key indexed.objects =
        (ObjectStore.byName bound).lengthOf key named.objects :=
      h.holds.lengthOf_eq (h.shown _ (hkey _ rfl))
    simp only [ObjectStore.step, ObjectStore.perform]
    rw [← hlength]
    exact h.operate _ rfl h.holds
  | clear => exact h.operate _ rfl h.holds.clear

/-- **A run** keeps agreeing, if its keys are given out before they are used. -/
theorem Agree.run (h : Agree bound indexed named) {ops : List CacheOp}
    (hkeys : ObjectStore.KeysGiven indexed ops) :
    Agree bound (ObjectStore.cache.run indexed ops) ((ObjectStore.byName bound).run named ops) := by
  -- By induction on the operations: each of them finds what the ones before it have left.
  induction ops generalizing indexed named with
  | nil => exact h
  | cons op ops ih => exact ih (h.step hkeys.1) hkeys.2

end Agree

/-! ### The main result -/

/-- What can be relied on when a run of a cache has come this far, and one of stacks as well. -/
structure ActsAsStacks (bound : Nat) (indexed : CacheRun ObjectCache)
    (named : CacheRun (String → List StoredValue)) : Prop where
  /-- All answers are the same. -/
  history_eq : indexed.history = named.history
  /-- No stack is higher than the bound. -/
  bounded : ∀ name, (named.objects name).length ≤ bound
  /-- Keys are of the kind and the name that were registered. -/
  registered : ∀ kind name key, (.register kind name, .key (.ok key)) ∈ indexed.history →
    key.1 = kind ∧ key.2.name = name
  /-- Keys share an index when they share a name. -/
  index_eq_iff : ∀ key ∈ indexed.keys, ∀ key' ∈ indexed.keys,
    key.2.index = key'.2.index ↔ key.2.name = key'.2.name
  /-- Keys that share an index are of one kind. -/
  kind_eq : ∀ key ∈ indexed.keys, ∀ key' ∈ indexed.keys, key.2.index = key'.2.index → key.1 = key'.1
  /-- No key ever leads to a list of another kind. -/
  isForeign_eq : ∀ key ∈ indexed.keys, indexed.objects.isForeign key.2 = false

/-- **A cache acts as a stack for each name.** Whatever types are registered and whatever is done with
objects of these types, a cache cannot be told from independent stacks of bounded height. -/
theorem acts_as_stacks (bound id slotLimit : Nat) (ops : List CacheOp)
    (hkeys : ObjectStore.KeysGiven (.start id slotLimit (.new bound)) ops) :
    ActsAsStacks bound (ObjectStore.cache.run (.start id slotLimit (.new bound)) ops)
      ((ObjectStore.byName bound).run (.start id slotLimit fun _ ↦ []) ops) := by
  have hagree := (agree_start bound id slotLimit).run hkeys
  exact
    { history_eq := hagree.history_eq
      bounded := hagree.holds.bounded
      registered := hagree.registered
      index_eq_iff := fun key hkey key' hkey' ↦
        (hagree.shown key hkey).index_eq_iff (hagree.shown key' hkey') hagree.tied
      kind_eq := fun key hkey key' hkey' hindex ↦
        ValueKind.cacheSlot.inj ((hagree.shown key hkey).kind_eq (hagree.shown key' hkey') hindex)
      isForeign_eq := fun key hkey ↦ (hagree.holds.suits (hagree.shown key hkey)).isForeign_eq }

/-- A key for texts. -/
def draft : CacheKey .text :=
  ⟨⟨0, "draft", 7, .absent⟩⟩

/-- A key for byte strings. -/
def chunk : CacheKey .bytes :=
  ⟨⟨1, "chunk", 7, .absent⟩⟩

/-- A type is registered twice, and another one in between. -/
def draftTwice : List CacheOp :=
  [.register .text "draft", .register .bytes "chunk", .put draft "a", .register .text "draft",
    .put draft "b", .take chunk, .take draft]

/-- There is one stack for the type that was registered twice, and one for the other. -/
theorem acts_as_stacks_draftTwice :
    ObjectStore.KeysGiven (.start 7 8 (.new 1)) draftTwice ∧
      ActsAsStacks 1 (ObjectStore.cache.run (.start 7 8 (.new 1)) draftTwice)
        ((ObjectStore.byName 1).run (.start 7 8 fun _ ↦ []) draftTwice) ∧
      (ObjectStore.cache.run (.start 7 8 (.new 1)) draftTwice).history.map Prod.snd =
        [.key (.ok ⟨_, draft⟩), .key (.ok ⟨_, chunk⟩), .kept true, .key (.ok ⟨_, draft⟩), .kept false,
          .object none, .object (some ⟨.text, "a"⟩)] := by
  have hkeys : ObjectStore.KeysGiven (.start 7 8 (.new 1)) draftTwice := by
    -- The keys that are used are for texts, for texts, for byte strings and for texts.
    refine ⟨nofun, nofun, ?_, nofun, ?_, ?_, ?_, trivial⟩ <;> rintro _ ⟨⟩
    · exact .head _
    · exact .head _
    · exact .tail _ (.head _)
    · exact .head _
  exact ⟨hkeys, acts_as_stacks 1 7 8 draftTwice hkeys, by rfl⟩

end ObjectCache

end Conduit
