import Conduit.Attribute.Registry
import Mathlib.Data.List.Infix

/-!
# Handles and the registries that give them

A registry only grows: what it has declared keeps its slot, its kind and its default. So whenever two
handles were asked for, and in whatever way, if they are of one registry and one slot then they are of
one kind (`Registries.kind_eq`). It is what makes it safe to keep values by slot.
-/

namespace Conduit

/-- A described attribute has a handle of its own kind only. -/
theorem Descriptor.handleOf?_eq_some_iff {d : Descriptor} {kind : ValueKind} {registry : Nat}
    {a : Attribute kind} :
    d.handleOf? registry kind = some a ↔
      d = ⟨a.index, a.name, kind, a.default⟩ ∧ a.registry = registry := by
  unfold handleOf?
  split
  · next hkind =>
    subst hkind
    rw [Option.some.injEq]
    constructor
    · rintro rfl
      exact ⟨rfl, rfl⟩
    · obtain ⟨index, name, kind, default⟩ := d
      obtain ⟨index', name', registry', default'⟩ := a
      dsimp only
      rintro ⟨⟨⟩, rfl⟩
      rfl
  · next hkind =>
    refine ⟨nofun, ?_⟩
    rintro ⟨rfl, -⟩
    exact absurd rfl hkind

namespace Registry

variable {registry grown : Registry} {kind : ValueKind} {name : String} {a : Attribute kind}

/-! ### Slots and the table of names -/

/-- The slots and the table of names agree. -/
structure Indexed (registry : Registry) : Prop where
  /-- Every slot is described under its own number. -/
  numbered : ∀ {index : Nat} {d : Descriptor}, registry.descriptor? index = some d → d.index = index
  /-- The table leads a name to the slot that is described under it, and so never past the last one. -/
  led : ∀ {name : String} {index : Nat}, registry.byName.lookup name = some index →
    ∃ d, registry.descriptor? index = some d ∧ d.name = name
  /-- Every slot is entered under its name. -/
  entered : ∀ {index : Nat} {d : Descriptor}, registry.descriptor? index = some d →
    registry.byName.lookup d.name = some index

theorem indexed_new (id limit : Nat) : (Registry.new id limit).Indexed where
  numbered h := by simp [new, descriptor?] at h
  led h := by simp [new] at h
  entered h := by simp [new, descriptor?] at h

section Indexed

variable {d : Descriptor} {index : Nat}

/-- A slot is known under its number. -/
theorem Indexed.descriptor?_eq_some_iff (h : registry.Indexed) :
    registry.descriptor? index = some d ↔ d ∈ registry.slots ∧ d.index = index := by
  constructor
  · intro hslot
    exact ⟨List.mem_of_getElem? hslot, h.numbered hslot⟩
  · rintro ⟨hmem, rfl⟩
    obtain ⟨index, hslot⟩ := List.getElem?_of_mem hmem
    rw [h.numbered hslot]
    exact hslot

/-- A slot is known under its name. -/
theorem Indexed.resolve?_eq_some_iff (h : registry.Indexed) :
    registry.resolve? name = some d ↔ d ∈ registry.slots ∧ d.name = name := by
  constructor
  · intro hresolve
    obtain ⟨index, hlookup, hslot⟩ := Option.bind_eq_some_iff.1 hresolve
    obtain ⟨other, hother, hname⟩ := h.led hlookup
    obtain rfl := Option.some.inj (hslot.symm.trans hother)
    exact ⟨List.mem_of_getElem? hslot, hname⟩
  · rintro ⟨hmem, rfl⟩
    obtain ⟨index, hslot⟩ := List.getElem?_of_mem hmem
    rw [resolve?, h.entered hslot]
    exact hslot

/-- A name that is not known is not in the table either. -/
theorem Indexed.lookup_eq_none (h : registry.Indexed) (hnew : registry.resolve? name = none) :
    registry.byName.lookup name = none := by
  rw [Option.eq_none_iff_forall_ne_some]
  intro index hlookup
  obtain ⟨d, hslot, -⟩ := h.led hlookup
  rw [resolve?, hlookup, Option.bind_some, hslot] at hnew
  contradiction

/-- No two slots have one name. -/
theorem Indexed.index_eq (h : registry.Indexed) {index' : Nat} {d' : Descriptor}
    (hd : registry.descriptor? index = some d) (hd' : registry.descriptor? index' = some d')
    (hname : d.name = d'.name) : index = index' := by
  have hlookup := h.entered hd
  rw [hname, h.entered hd'] at hlookup
  exact (Option.some.inj hlookup).symm

end Indexed

/-! ### Declarations -/

section Add

variable {default : AttributeDefault kind} {d : Descriptor} {index : Nat}

/-- A slot is added behind the others. -/
theorem descriptor?_add_eq_some_iff :
    (registry.add name default).descriptor? index = some d ↔
      registry.descriptor? index = some d ∨
        index = registry.length ∧ d = ⟨registry.length, name, kind, default⟩ := by
  show (registry.slots ++ [_])[index]? = some d ↔ registry.slots[index]? = some d ∨ _
  rcases Nat.lt_trichotomy index registry.slots.length with hlt | rfl | hgt
  · rw [List.getElem?_append_left hlt]
    exact (or_iff_left fun h ↦ Nat.ne_of_lt hlt h.1).symm
  · rw [List.getElem?_concat_length, List.getElem?_eq_none (Nat.le_refl _), Option.some.injEq, eq_comm]
    exact ⟨fun h ↦ .inr ⟨rfl, h⟩, fun h ↦ (h.resolve_left nofun).2⟩
  · rw [List.getElem?_eq_none (List.length_append ▸ hgt), List.getElem?_eq_none (Nat.le_of_lt hgt)]
    refine ⟨nofun, fun h ↦ ?_⟩
    exact absurd (h.resolve_left nofun).1 (Nat.ne_of_gt hgt)

theorem lookup_byName_add_self : (registry.add name default).byName.lookup name = some registry.length :=
  List.lookup_cons_self

theorem lookup_byName_add_of_ne {other : String} (h : other ≠ name) :
    (registry.add name default).byName.lookup other = registry.byName.lookup other := by
  rw [add, List.lookup_cons, beq_eq_false_iff_ne.2 h]

/-- A slot and its entry are added together. -/
theorem Indexed.add (h : registry.Indexed) (hnew : registry.resolve? name = none)
    (default : AttributeDefault kind) : (registry.add name default).Indexed where
  numbered hslot := by
    rcases descriptor?_add_eq_some_iff.1 hslot with hold | ⟨rfl, rfl⟩
    · exact h.numbered hold
    · rfl
  led {other index} hlookup := by
    rcases eq_or_ne other name with rfl | hne
    · obtain rfl := Option.some.inj (lookup_byName_add_self.symm.trans hlookup)
      exact ⟨_, descriptor?_add_eq_some_iff.2 (.inr ⟨rfl, rfl⟩), rfl⟩
    · rw [lookup_byName_add_of_ne hne] at hlookup
      obtain ⟨d, hslot, hname⟩ := h.led hlookup
      exact ⟨d, descriptor?_add_eq_some_iff.2 (.inl hslot), hname⟩
  entered {index d} hslot := by
    rcases descriptor?_add_eq_some_iff.1 hslot with hold | ⟨rfl, rfl⟩
    · -- The new name is none of those in the table.
      have hne : d.name ≠ name := fun hname ↦ by
        have hlookup := h.entered hold
        rw [hname, h.lookup_eq_none hnew] at hlookup
        contradiction
      rw [lookup_byName_add_of_ne hne, h.entered hold]
    · exact lookup_byName_add_self

end Add

section Declare

variable {d : Descriptor}

/-- A known name is left as it is. -/
theorem declare_of_known (h : registry.resolve? name = some d) (default : AttributeDefault kind) :
    Registry.declare name default registry = (registry.typedHandle d kind, registry) := by
  simp only [Registry.declare, bind, StateT.bind, get, getThe, MonadStateOf.get, StateT.get, pure, h]
  rfl

/-- Looking a name up again, once it cannot be declared by others, loses nothing: whatever was declared
since the first look, the rest of a declaration does what a declaration begun now would do. -/
theorem allocate_eq_declare (registry : Registry) (name : String) (default : AttributeDefault kind) :
    Registry.allocate name default registry = Registry.declare name default registry := by
  simp only [Registry.declare, bind, StateT.bind, get, getThe, MonadStateOf.get, StateT.get, pure]
  cases hresolve : registry.resolve? name with
  | some d =>
    simp only [Registry.allocate, bind, StateT.bind, get, getThe, MonadStateOf.get, StateT.get, pure,
      hresolve]
  | none => rfl

/-- A new name is refused when all slots are taken. -/
theorem declare_of_full (h : registry.resolve? name = none)
    (hfull : registry.slotLimit ≤ registry.length) (default : AttributeDefault kind) :
    Registry.declare name default registry =
      (.error (.slotsExhausted name registry.slotLimit), registry) := by
  simp only [← allocate_eq_declare, Registry.allocate, bind, StateT.bind, get, getThe,
    MonadStateOf.get, StateT.get, pure, h, if_pos hfull]
  rfl

/-- A new name gets a slot at the end. -/
theorem declare_of_free (h : registry.resolve? name = none)
    (hfree : registry.length < registry.slotLimit) (default : AttributeDefault kind) :
    Registry.declare name default registry =
      (.ok ⟨registry.length, name, registry.id, default⟩, registry.add name default) := by
  simp only [← allocate_eq_declare, Registry.allocate, bind, StateT.bind, get, getThe,
    MonadStateOf.get, StateT.get, pure, h, if_neg (Nat.not_le.2 hfree)]
  rfl

/-- A declaration leaves a registry as it is, or adds a name that was not known. -/
theorem declare_cases (registry : Registry) (name : String) (default : AttributeDefault kind) :
    (Registry.declare name default registry).2 = registry ∨
      registry.resolve? name = none ∧
        (Registry.declare name default registry).2 = registry.add name default := by
  cases hresolve : registry.resolve? name with
  | some d => exact .inl (by rw [declare_of_known hresolve])
  | none =>
    rcases Nat.lt_or_ge registry.length registry.slotLimit with hfree | hfull
    · exact .inr ⟨rfl, by rw [declare_of_free hresolve hfree]⟩
    · exact .inl (by rw [declare_of_full hresolve hfull])

end Declare

/-! ### Growth -/

/-- What becomes of a registry as attributes are declared. -/
inductive Grows (registry : Registry) : Registry → Prop where
  | refl : Grows registry registry
  | declare {grown : Registry} (h : Grows registry grown) {kind : ValueKind} (name : String)
      (default : AttributeDefault kind) : Grows registry (Registry.declare name default grown).2

theorem Grows.id_eq (h : Grows registry grown) : grown.id = registry.id := by
  induction h with
  | refl => rfl
  | @declare grown _ kind name default ih =>
    rcases declare_cases grown name default with heq | ⟨-, heq⟩
    · rw [heq, ih]
    · rw [heq, ← ih]
      rfl

/-- A registry keeps its slots as they are, and in their places. -/
theorem Grows.slots_prefix (h : Grows registry grown) : registry.slots <+: grown.slots := by
  induction h with
  | refl => exact List.prefix_rfl
  | @declare grown _ kind name default ih =>
    rcases declare_cases grown name default with heq | ⟨-, heq⟩
    · rwa [heq]
    · rw [heq]
      exact ih.trans (List.prefix_append ..)

/-- **The table of names and the slots agree** in every registry that came of a new one. -/
theorem Grows.indexed (h : Grows registry grown) (hindexed : registry.Indexed) : grown.Indexed := by
  induction h with
  | refl => exact hindexed
  | @declare grown _ kind name default ih =>
    rcases declare_cases grown name default with heq | ⟨hnew, heq⟩
    · rwa [heq]
    · rw [heq]
      exact ih.add hnew default

/-! ### What handles show -/

/-- A handle shows a slot of a registry just as it is described there. -/
structure Shows (registry : Registry) (a : Attribute kind) : Prop where
  registry_eq : a.registry = registry.id
  slot : registry.descriptor? a.index = some ⟨a.index, a.name, kind, a.default⟩

/-- A handle goes on showing its slot. -/
theorem Shows.grows (h : registry.Shows a) (hgrows : Grows registry grown) : grown.Shows a := by
  refine ⟨h.registry_eq.trans hgrows.id_eq.symm, ?_⟩
  obtain ⟨more, hmore⟩ := hgrows.slots_prefix
  have hlt : a.index < registry.slots.length := (List.getElem?_eq_some_iff.1 h.slot).1
  rw [descriptor?, ← hmore, List.getElem?_append_left hlt]
  exact h.slot

/-- Handles that show one slot are of one kind. -/
theorem Shows.kind_eq {kind' : ValueKind} {b : Attribute kind'} (ha : registry.Shows a)
    (hb : registry.Shows b) (hindex : a.index = b.index) : kind = kind' := by
  have hslot := ha.slot
  rw [hindex, hb.slot] at hslot
  exact (congrArg Descriptor.kind (Option.some.inj hslot)).symm

/-- A handle that a slot gives out shows that slot. -/
theorem shows_of_handleOf? {d : Descriptor} (hindexed : registry.Indexed) (hmem : d ∈ registry.slots)
    (h : d.handleOf? registry.id kind = some a) : registry.Shows a := by
  obtain ⟨rfl, hregistry⟩ := Descriptor.handleOf?_eq_some_iff.1 h
  exact ⟨hregistry, hindexed.descriptor?_eq_some_iff.2 ⟨hmem, rfl⟩⟩

/-- So does a handle that is found by name. -/
theorem shows_of_resolveAs? (hindexed : registry.Indexed)
    (h : registry.resolveAs? kind name = some a) : registry.Shows a := by
  obtain ⟨d, hresolve, hhandle⟩ := Option.bind_eq_some_iff.1 h
  exact shows_of_handleOf? hindexed (hindexed.resolve?_eq_some_iff.1 hresolve).1 hhandle

/-- What a declaration answers is what the slot gives out. -/
theorem handleOf?_of_typedHandle {d : Descriptor} (h : registry.typedHandle d kind = .ok a) :
    d.handleOf? registry.id kind = some a := by
  unfold typedHandle at h
  split at h
  · next hhandle => rw [hhandle, Except.ok.inj h]
  · contradiction

/-- What a declaration gives out shows a slot, under the name that was asked for. -/
theorem shows_of_declare {default : AttributeDefault kind} (hindexed : registry.Indexed)
    (h : (Registry.declare name default registry).1 = .ok a) :
    (Registry.declare name default registry).2.Shows a ∧ a.name = name := by
  cases hresolve : registry.resolve? name with
  | some d =>
    rw [declare_of_known hresolve] at h ⊢
    obtain ⟨hmem, hname⟩ := hindexed.resolve?_eq_some_iff.1 hresolve
    have hhandle := handleOf?_of_typedHandle h
    obtain ⟨rfl, -⟩ := Descriptor.handleOf?_eq_some_iff.1 hhandle
    exact ⟨shows_of_handleOf? hindexed hmem hhandle, hname⟩
  | none =>
    rcases Nat.lt_or_ge registry.length registry.slotLimit with hfree | hfull
    · rw [declare_of_free hresolve hfree] at h ⊢
      obtain rfl := Except.ok.inj h
      exact ⟨⟨rfl, descriptor?_add_eq_some_iff.2 (.inr ⟨rfl, rfl⟩)⟩, rfl⟩
    · rw [declare_of_full hresolve hfull] at h
      contradiction

end Registry

/-! ### All registries -/

/-- The registries, each as it has grown so far, by their numbers. -/
structure Registries where
  /-- The registry of a number. -/
  registry : Nat → Registry
  /-- It began without declarations. -/
  grown : ∀ id, ∃ limit, (Registry.new id limit).Grows (registry id)

namespace Registries

/-- One registry as it has grown, and the others without declarations. -/
def single (registry : Registry) (h : ∃ limit, (Registry.new registry.id limit).Grows registry) :
    Registries where
  registry id := if id = registry.id then registry else .new id 0
  grown id := by
    split
    · next heq => rwa [heq]
    · exact ⟨0, .refl⟩

variable {registries : Registries} {kind : ValueKind} {a : Attribute kind}

/-- A registry as it once was. -/
structure Past (registries : Registries) (past : Registry) : Prop where
  began : ∃ limit, (Registry.new past.id limit).Grows past
  since : past.Grows (registries.registry past.id)

/-- The handles that declarations and inquiries have given out, at whatever time. -/
inductive Issues (registries : Registries) {kind : ValueKind} (a : Attribute kind) : Prop where
  | declared {past : Registry} {name : String} {default : AttributeDefault kind}
      (hbegan : ∃ limit, (Registry.new past.id limit).Grows past)
      (ha : (Registry.declare name default past).1 = .ok a)
      (hsince : (Registry.declare name default past).2.Grows (registries.registry past.id))
  | resolved {past : Registry} {name : String} (hpast : registries.Past past)
      (ha : past.resolveAs? kind name = some a)

theorem indexed_of_began {past : Registry} (h : ∃ limit, (Registry.new past.id limit).Grows past) :
    past.Indexed := by
  obtain ⟨limit, hgrows⟩ := h
  exact hgrows.indexed (Registry.indexed_new past.id limit)

/-- The registry still shows every handle that it gave out. -/
theorem Issues.shows (h : registries.Issues a) : (registries.registry a.registry).Shows a := by
  cases h with
  | @declared past name default hbegan ha hsince =>
    have hshows := (Registry.shows_of_declare (indexed_of_began hbegan) ha).1
    have hid : a.registry = past.id :=
      hshows.registry_eq.trans (Registry.Grows.refl.declare name default).id_eq
    rw [hid]
    exact hshows.grows hsince
  | resolved hpast ha =>
    have hshows := Registry.shows_of_resolveAs? (indexed_of_began hpast.began) ha
    rw [hshows.registry_eq]
    exact hshows.grows hpast.since

/-- Handles of one slot are of one kind. -/
theorem kind_eq {kind' : ValueKind} {b : Attribute kind'} (ha : registries.Issues a)
    (hb : registries.Issues b) (hregistry : a.registry = b.registry) (hindex : a.index = b.index) :
    kind = kind' :=
  (hregistry ▸ ha.shows).kind_eq hb.shows hindex

end Registries

end Conduit
