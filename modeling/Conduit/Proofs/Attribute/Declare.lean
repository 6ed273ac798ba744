import Conduit.Fault
import Conduit.Proofs.Attribute.Handle
import Mathlib.Data.Finset.Card

/-!
# Registries and the declarations they granted

Everything that a registry answers follows from the declarations that it granted. The first one for a
name founds it: the name gets the lowest slot that is left, and keeps that slot, its kind and its
default (`RegistryMoment.Founded`). Every request is answered as the moments before it demand
(`RegistryMoment.Follows`), whatever else was asked in between, and a request that was refused might as
well not have been made (`Registry.recalls_history`).

The registry describes exactly what was founded, and its table of names leads to it
(`Registry.Recounts`), which every request preserves.
-/

namespace Conduit

/-- A request to a registry. -/
inductive RegistryOp where
  | declare (name : String) {kind : ValueKind} (default : AttributeDefault kind)
  | resolve (name : String)
  | resolveAs (kind : ValueKind) (name : String)
  | describe (index : Nat)

/-- A request to a registry, and its answer. -/
inductive RegistryMoment where
  | declared (name : String) {kind : ValueKind} (default : AttributeDefault kind)
      (answer : Except AttributeError (Attribute kind))
  | resolved (name : String) (answer : Option Descriptor)
  | resolvedAs (kind : ValueKind) (name : String) (answer : Option (Attribute kind))
  | described (index : Nat) (answer : Option Descriptor)

/-- Makes a request, and records it. -/
def RegistryOp.record : RegistryOp → StateM Registry RegistryMoment
  | declare name default => return .declared name default (← Registry.declare name default)
  | resolve name => return .resolved name ((← get).resolve? name)
  | resolveAs kind name => return .resolvedAs kind name ((← get).resolveAs? kind name)
  | describe index => return .described index ((← get).descriptor? index)

/-- Makes requests one after another, and records them. -/
def Registry.history : List RegistryOp → StateM Registry (List RegistryMoment)
  | [] => return []
  | op :: ops => return (← op.record) :: (← Registry.history ops)

namespace RegistryMoment

/-- The request that was made. -/
def op : RegistryMoment → RegistryOp
  | declared name default _ => .declare name default
  | resolved name _ => .resolve name
  | resolvedAs kind name _ => .resolveAs kind name
  | described index _ => .describe index

/-- Whether a declaration was refused. -/
def isRefused : RegistryMoment → Bool
  | declared _ _ (.error _) => true
  | _ => false

/-- The name whose declaration was granted. -/
def granted? : RegistryMoment → Option String
  | declared name _ (.ok _) => some name
  | _ => none

/-- The names for which a declaration was granted. -/
def granted (history : List RegistryMoment) : Finset String :=
  (history.filterMap granted?).toFinset

/-- In this history, what is described was declared, with the described kind and default, when no
declaration of the name had been granted; the slot is the number of the names that had been. -/
def Founded (history : List RegistryMoment) (d : Descriptor) : Prop :=
  ∃ before a after, history = before ++ declared d.name d.default (.ok a) :: after ∧
    d.name ∉ granted before ∧ d.index = (granted before).card

/-- How a declaration is answered after these moments. -/
structure Answers (id limit : Nat) (earlier : List RegistryMoment) (name : String) {kind : ValueKind}
    (default : AttributeDefault kind) (answer : Except AttributeError (Attribute kind)) : Prop where
  /-- A name of this kind keeps its slot and its first default. -/
  renewed : ∀ index first, Founded earlier ⟨index, name, kind, first⟩ →
    answer = .ok ⟨index, name, id, first⟩
  /-- A name of another kind is refused. -/
  mismatched : ∀ d, Founded earlier d → d.name = name → d.kind ≠ kind →
    ∃ error, answer = .error error ∧ error = .typeMismatch name d.kind.name kind.name ∧
      error.toFault.code = Fault.Code.attributeTypeMismatch
  /-- A new name gets the lowest slot that is left, and the default it came with. -/
  begun : name ∉ granted earlier → (granted earlier).card < limit →
    answer = .ok ⟨(granted earlier).card, name, id, default⟩
  /-- A new name is refused when no slot is left. -/
  exhausted : name ∉ granted earlier → (granted earlier).card = limit →
    ∃ error, answer = .error error ∧ error = .slotsExhausted name limit ∧
      error.toFault.code = Fault.Code.attributeSlotsExhausted

/-- A moment is what those before it demand, in a registry with this number and so many slots. -/
def Follows (id limit : Nat) (earlier : List RegistryMoment) : RegistryMoment → Prop
  | declared name default answer => Answers id limit earlier name default answer
  | resolved name answer => ∀ d, answer = some d ↔ Founded earlier d ∧ d.name = name
  | resolvedAs kind name answer =>
    (∀ a, answer = some a ↔
      ∃ index first, Founded earlier ⟨index, name, kind, first⟩ ∧ a = ⟨index, name, id, first⟩) ∧
    (answer.isSome ↔
      ∃ (default : AttributeDefault kind) (a : Attribute kind),
        declared name default (.ok a) ∈ earlier)
  | described index answer => ∀ d, answer = some d ↔ Founded earlier d ∧ d.index = index

/-! ### What was founded -/

section Founded

variable {history : List RegistryMoment} {moment : RegistryMoment} {d d' : Descriptor} {name : String}

theorem exists_of_granted? (h : moment.granted? = some name) :
    ∃ (kind : ValueKind) (default : AttributeDefault kind) (a : Attribute kind),
      moment = declared name default (.ok a) := by
  unfold granted? at h
  split at h
  · obtain rfl := Option.some.inj h
    exact ⟨_, _, _, rfl⟩
  · contradiction

/-- A name that is granted is one more. -/
theorem granted_concat_of_some (h : moment.granted? = some name) :
    granted (history ++ [moment]) = insert name (granted history) := by
  rw [granted, List.filterMap_append, List.toFinset_append, Finset.insert_eq, Finset.union_comm]
  simp [granted, h]

/-- A moment at which nothing is granted changes nothing about what was. -/
theorem granted_concat_of_none (h : moment.granted? = none) :
    granted (history ++ [moment]) = granted history := by
  simp [granted, h]

theorem Founded.append (h : Founded history d) (later : List RegistryMoment) :
    Founded (history ++ later) d := by
  obtain ⟨before, a, after, rfl, hnew, hindex⟩ := h
  exact ⟨before, a, after ++ later, List.append_assoc .., hnew, hindex⟩

/-- The last moment founds what it grants anew. -/
theorem founded_concat_iff : Founded (history ++ [moment]) d ↔ Founded history d ∨
    (∃ a, moment = declared d.name d.default (.ok a)) ∧ d.name ∉ granted history ∧
      d.index = (granted history).card := by
  constructor
  -- The founding moment is the last one, or the last one is among those behind it.
  · rintro ⟨before, a, after, hhistory, hnew, hindex⟩
    rcases List.eq_nil_or_concat' after with rfl | ⟨after, last, rfl⟩
    · obtain ⟨rfl, hmoment⟩ := List.append_inj' hhistory rfl
      exact .inr ⟨⟨a, List.singleton_inj.1 hmoment⟩, hnew, hindex⟩
    · rw [← List.cons_append, ← List.append_assoc] at hhistory
      exact .inl ⟨before, a, after, (List.append_inj' hhistory rfl).1, hnew, hindex⟩
  · rintro (hfounded | ⟨⟨a, rfl⟩, hnew, hindex⟩)
    · exact hfounded.append [moment]
    · exact ⟨history, a, [], rfl, hnew, hindex⟩

theorem Founded.mem_granted (h : Founded history d) : d.name ∈ granted history := by
  obtain ⟨before, a, after, rfl, -, -⟩ := h
  exact List.mem_toFinset.2 (List.mem_filterMap.2
    ⟨declared d.name d.default (.ok a), List.mem_append_right _ List.mem_cons_self, rfl⟩)

/-- A name that was granted has a slot that was founded. -/
theorem exists_founded (h : name ∈ granted history) : ∃ d, Founded history d ∧ d.name = name := by
  induction history using List.reverseRecOn with
  | nil => simp [granted] at h
  | append_singleton history moment ih =>
    by_cases hknown : name ∈ granted history
    · obtain ⟨d, hfounded, hname⟩ := ih hknown
      exact ⟨d, hfounded.append _, hname⟩
    · rcases hgranted : moment.granted? with - | other
      · rw [granted_concat_of_none hgranted] at h
        exact absurd h hknown
      · rw [granted_concat_of_some hgranted, Finset.mem_insert] at h
        obtain rfl := h.resolve_right hknown
        obtain ⟨kind, default, a, rfl⟩ := exists_of_granted? hgranted
        exact ⟨⟨(granted history).card, name, kind, default⟩,
          founded_concat_iff.2 (.inr ⟨⟨a, rfl⟩, hknown, rfl⟩), rfl⟩

/-- The names that were granted are those of the slots that were founded. -/
theorem mem_granted_iff : name ∈ granted history ↔ ∃ d, Founded history d ∧ d.name = name :=
  ⟨exists_founded, fun ⟨_, hfounded, hname⟩ ↦ hname ▸ hfounded.mem_granted⟩

/-- A moment that grants no new name founds nothing. -/
theorem founded_concat_iff_of_known
    (h : ∀ name, moment.granted? = some name → name ∈ granted history) :
    Founded (history ++ [moment]) d ↔ Founded history d := by
  refine ⟨fun hfounded ↦ (founded_concat_iff.1 hfounded).resolve_right ?_, fun h ↦ h.append _⟩
  rintro ⟨⟨a, rfl⟩, hnew, -⟩
  exact hnew (h d.name rfl)

/-- A name that is granted again changes nothing. -/
theorem granted_concat_of_known
    (h : ∀ name, moment.granted? = some name → name ∈ granted history) :
    granted (history ++ [moment]) = granted history := by
  rcases hgranted : moment.granted? with - | name
  · exact granted_concat_of_none hgranted
  · rw [granted_concat_of_some hgranted, Finset.insert_eq_of_mem (h name hgranted)]

/-- A name is founded once. -/
theorem Founded.eq_of_name (h : Founded history d) (h' : Founded history d')
    (hname : d.name = d'.name) : d = d' := by
  -- By induction on the history: its last moment founds a name only if no earlier one has.
  induction history using List.reverseRecOn with
  | nil => simp [Founded] at h
  | append_singleton history moment ih =>
    rcases founded_concat_iff.1 h with hold | ⟨⟨a, rfl⟩, hnew, hindex⟩ <;>
      rcases founded_concat_iff.1 h' with hold' | ⟨⟨a', hmoment⟩, hnew', hindex'⟩
    · exact ih hold hold'
    · exact absurd (mem_granted_iff.2 ⟨d, hold, hname⟩) hnew'
    · exact absurd (mem_granted_iff.2 ⟨d', hold', hname.symm⟩) hnew
    · obtain ⟨index, name, kind, default⟩ := d
      obtain ⟨index', name', kind', default'⟩ := d'
      cases hmoment
      exact congrArg (fun slot ↦ Descriptor.mk slot name kind default) (hindex.trans hindex'.symm)

end Founded

end RegistryMoment

/-! ### What a registry holds -/

namespace Registry

open RegistryMoment

/-- A registry with this number and so many slots describes what was founded in a history. -/
structure Recounts (id limit : Nat) (history : List RegistryMoment) (registry : Registry) : Prop where
  id_eq : registry.id = id
  slotLimit_eq : registry.slotLimit = limit
  mem_iff : ∀ d, d ∈ registry.slots ↔ Founded history d
  indexed : registry.Indexed
  /-- What is granted is of the kind that was founded. -/
  founded_of_mem : ∀ {kind : ValueKind} (name : String) (default : AttributeDefault kind)
    (a : Attribute kind), RegistryMoment.declared name default (.ok a) ∈ history →
      ∃ index first, Founded history ⟨index, name, kind, first⟩
  length_eq : registry.length = (granted history).card
  length_le : registry.length ≤ limit

theorem recounts_new (id limit : Nat) : (Registry.new id limit).Recounts id limit [] where
  id_eq := rfl
  slotLimit_eq := rfl
  mem_iff d := by simp [new, Founded]
  indexed := indexed_new id limit
  founded_of_mem _ _ _ := nofun
  length_eq := rfl
  length_le := Nat.zero_le _

section Recounts

variable {id limit : Nat} {history : List RegistryMoment} {registry : Registry} {kind : ValueKind}
  {name : String} {d : Descriptor}

/-- **A slot is found by name** just when it was founded under it. -/
theorem Recounts.resolve?_eq_some_iff (h : registry.Recounts id limit history) :
    registry.resolve? name = some d ↔ Founded history d ∧ d.name = name := by
  rw [h.indexed.resolve?_eq_some_iff, h.mem_iff]

/-- **No slot is found** under a name that was not granted. -/
theorem Recounts.resolve?_eq_none_iff (h : registry.Recounts id limit history) :
    registry.resolve? name = none ↔ name ∉ granted history := by
  rw [mem_granted_iff, Option.eq_none_iff_forall_ne_some, not_exists]
  exact forall_congr' fun d ↦ not_congr h.resolve?_eq_some_iff

/-- A slot is found by index just when it was founded with it. -/
theorem Recounts.descriptor?_eq_some_iff (h : registry.Recounts id limit history) {index : Nat} :
    registry.descriptor? index = some d ↔ Founded history d ∧ d.index = index := by
  rw [h.indexed.descriptor?_eq_some_iff, h.mem_iff]

/-- A handle is found by name and kind just when the slot was founded with both, and it has the first
default. -/
theorem Recounts.resolveAs?_eq_some_iff (h : registry.Recounts id limit history) {a : Attribute kind} :
    registry.resolveAs? kind name = some a ↔
      ∃ index first, Founded history ⟨index, name, kind, first⟩ ∧ a = ⟨index, name, id, first⟩ := by
  show (registry.resolve? name).bind _ = some a ↔ _
  rw [Option.bind_eq_some_iff]
  constructor
  · rintro ⟨d, hresolve, hhandle⟩
    obtain ⟨rfl, hregistry⟩ := Descriptor.handleOf?_eq_some_iff.1 hhandle
    obtain ⟨hfounded, rfl⟩ := h.resolve?_eq_some_iff.1 hresolve
    exact ⟨a.index, a.default, hfounded, by rw [← h.id_eq, ← hregistry]⟩
  · rintro ⟨index, first, hfounded, rfl⟩
    exact ⟨_, h.resolve?_eq_some_iff.2 ⟨hfounded, rfl⟩,
      Descriptor.handleOf?_eq_some_iff.2 ⟨rfl, h.id_eq.symm⟩⟩

/-! ### What requests do -/

/-- A moment that founds nothing leaves nothing to be changed. -/
theorem Recounts.concat_of_known (h : registry.Recounts id limit history) {moment : RegistryMoment}
    (hknown : ∀ {kind : ValueKind} (name : String) (default : AttributeDefault kind)
      (a : Attribute kind), moment = .declared name default (.ok a) →
        ∃ index first, Founded history ⟨index, name, kind, first⟩) :
    registry.Recounts id limit (history ++ [moment]) := by
  have hgranted : ∀ name, moment.granted? = some name → name ∈ granted history := by
    intro name hname
    obtain ⟨kind, default, a, rfl⟩ := exists_of_granted? hname
    obtain ⟨index, first, hfounded⟩ := hknown name default a rfl
    exact hfounded.mem_granted
  refine ⟨h.id_eq, h.slotLimit_eq, fun d ↦ ?_, h.indexed, fun name default a hmem ↦ ?_, ?_,
    h.length_le⟩
  · rw [h.mem_iff, founded_concat_iff_of_known hgranted]
  · rcases List.mem_append.1 hmem with hmem | hmem
    · obtain ⟨index, first, hfounded⟩ := h.founded_of_mem name default a hmem
      exact ⟨index, first, hfounded.append _⟩
    · obtain ⟨index, first, hfounded⟩ := hknown name default a (List.mem_singleton.1 hmem).symm
      exact ⟨index, first, hfounded.append _⟩
  · rw [h.length_eq, granted_concat_of_known hgranted]

/-- A moment at which nothing is granted is recounted by the same registry. -/
theorem Recounts.concat_of_none (h : registry.Recounts id limit history) {moment : RegistryMoment}
    (hnone : moment.granted? = none) : registry.Recounts id limit (history ++ [moment]) := by
  refine h.concat_of_known fun name default a hmoment ↦ ?_
  rw [hmoment] at hnone
  cases hnone

/-- A moment that founds a name adds a slot. -/
theorem Recounts.concat_of_new (h : registry.Recounts id limit history) (hnew : name ∉ granted history)
    (hfree : registry.length < limit) (default : AttributeDefault kind) (a : Attribute kind) :
    Recounts id limit (history ++ [.declared name default (.ok a)]) (registry.add name default) := by
  have hfounded : Founded (history ++ [.declared name default (.ok a)])
      ⟨registry.length, name, kind, default⟩ :=
    founded_concat_iff.2 (.inr ⟨⟨a, rfl⟩, hnew, h.length_eq⟩)
  have hlength : (registry.slots ++ [(⟨registry.length, name, kind, default⟩ : Descriptor)]).length =
      registry.length + 1 := List.length_append
  refine ⟨h.id_eq, h.slotLimit_eq, fun d ↦ ?_, h.indexed.add (h.resolve?_eq_none_iff.2 hnew) default,
    fun name' default' a' hmem ↦ ?_, ?_, hlength.trans_le hfree⟩
  · rw [add, List.mem_append, List.mem_singleton, h.mem_iff]
    constructor
    · rintro (hold | rfl)
      · exact hold.append _
      · exact hfounded
    · intro hd
      rcases founded_concat_iff.1 hd with hold | ⟨⟨a', hmoment⟩, -, -⟩
      · exact .inl hold
      · have hname : d.name = name := by
          cases hmoment
          rfl
        -- Two slots of one name are one slot.
        exact .inr (hd.eq_of_name hfounded hname)
  · rcases List.mem_append.1 hmem with hmem | hmem
    · obtain ⟨index, first, hold⟩ := h.founded_of_mem name' default' a' hmem
      exact ⟨index, first, hold.append _⟩
    · cases List.mem_singleton.1 hmem
      exact ⟨_, _, hfounded⟩
  · rw [granted_concat_of_some rfl, Finset.card_insert_of_notMem hnew, ← h.length_eq]
    exact hlength

/-- A declaration of a known name is renewed or refused, and changes nothing. -/
theorem Recounts.declare_known (h : registry.Recounts id limit history) (hfounded : Founded history d)
    (default : AttributeDefault kind) :
    Answers id limit history d.name default (Registry.declare d.name default registry).1 ∧
      (Registry.declare d.name default registry).2.Recounts id limit
        (history ++ [.declared d.name default (Registry.declare d.name default registry).1]) := by
  have hresolve : registry.resolve? d.name = some d := h.resolve?_eq_some_iff.2 ⟨hfounded, rfl⟩
  have hunique : ∀ other, Founded history other → other.name = d.name → other = d :=
    fun other hother hname ↦ hother.eq_of_name hfounded hname
  have hold : d.name ∈ granted history := hfounded.mem_granted
  by_cases hkind : d.kind = kind
  · obtain ⟨index, name, kind', first⟩ := d
    obtain rfl : kind' = kind := hkind
    have hhandle : Descriptor.handleOf? ⟨index, name, kind', first⟩ registry.id kind' =
        some ⟨index, name, id, first⟩ := Descriptor.handleOf?_eq_some_iff.2 ⟨rfl, h.id_eq.symm⟩
    have hdeclare : Registry.declare name default registry =
        (.ok ⟨index, name, id, first⟩, registry) := by
      rw [declare_of_known hresolve, typedHandle, hhandle]
    rw [hdeclare]
    refine ⟨⟨fun index' first' hother ↦ ?_, fun other hother hname hne ↦ ?_, absurd hold,
      absurd hold⟩, h.concat_of_known ?_⟩
    · cases hunique _ hother rfl
      rfl
    · rw [hunique other hother hname] at hne
      exact absurd rfl hne
    · rintro _ _ _ _ ⟨⟩
      exact ⟨index, first, hfounded⟩
  · have hhandle : d.handleOf? registry.id kind = none := dif_neg hkind
    have hdeclare : Registry.declare d.name default registry =
        (.error (.typeMismatch d.name d.kind.name kind.name), registry) := by
      rw [declare_of_known hresolve, typedHandle, hhandle]
    rw [hdeclare]
    refine ⟨⟨fun index first hother ↦ ?_, fun other hother hname _ ↦ ?_, absurd hold, absurd hold⟩,
      h.concat_of_none rfl⟩
    · rw [← hunique _ hother rfl] at hkind
      exact absurd rfl hkind
    · rw [hunique other hother hname]
      exact ⟨_, rfl, rfl, rfl⟩

/-- A declaration of a new name begins a slot, or is refused when none is left. -/
theorem Recounts.declare_new (h : registry.Recounts id limit history) (hnew : name ∉ granted history)
    (default : AttributeDefault kind) :
    Answers id limit history name default (Registry.declare name default registry).1 ∧
      (Registry.declare name default registry).2.Recounts id limit
        (history ++ [.declared name default (Registry.declare name default registry).1]) := by
  have hresolve : registry.resolve? name = none := h.resolve?_eq_none_iff.2 hnew
  have hnone : ∀ d, Founded history d → d.name ≠ name := fun d hd hname ↦
    hnew (mem_granted_iff.2 ⟨d, hd, hname⟩)
  rcases Nat.lt_or_ge registry.length limit with hfree | hfull
  · rw [declare_of_free hresolve (h.slotLimit_eq ▸ hfree)]
    refine ⟨⟨fun _ _ hd ↦ absurd rfl (hnone _ hd), fun d hd hname ↦ absurd hname (hnone d hd),
      fun _ _ ↦ ?_, fun _ hlimit ↦ ?_⟩, h.concat_of_new hnew hfree default _⟩
    · rw [h.length_eq, h.id_eq]
    · exact absurd (h.length_eq.trans hlimit) (Nat.ne_of_lt hfree)
  · rw [declare_of_full hresolve (h.slotLimit_eq ▸ hfull), h.slotLimit_eq]
    refine ⟨⟨fun _ _ hd ↦ absurd rfl (hnone _ hd), fun d hd hname ↦ absurd hname (hnone d hd),
      fun _ hlimit ↦ ?_, fun _ _ ↦ ⟨_, rfl, rfl, rfl⟩⟩, h.concat_of_none rfl⟩
    exact absurd (h.length_eq ▸ hlimit) (Nat.not_lt.2 hfull)

/-- **A request** is answered as the history demands, and recounted with it. -/
theorem Recounts.record (h : registry.Recounts id limit history) (op : RegistryOp) :
    (op.record registry).1.Follows id limit history ∧
      (op.record registry).2.Recounts id limit (history ++ [(op.record registry).1]) := by
  cases op with
  | declare name default =>
    by_cases hknown : name ∈ granted history
    · obtain ⟨d, hfounded, rfl⟩ := exists_founded hknown
      exact h.declare_known hfounded default
    · exact h.declare_new hknown default
  | resolve name => exact ⟨fun d ↦ h.resolve?_eq_some_iff, h.concat_of_none rfl⟩
  | resolveAs kind name =>
    refine ⟨⟨fun a ↦ h.resolveAs?_eq_some_iff, ?_⟩, h.concat_of_none rfl⟩
    rw [Option.isSome_iff_exists]
    constructor
    · rintro ⟨a, hresolve⟩
      obtain ⟨index, first, ⟨before, granted, after, rfl, -, -⟩, -⟩ :=
        h.resolveAs?_eq_some_iff.1 hresolve
      exact ⟨first, granted, List.mem_append_right _ List.mem_cons_self⟩
    · rintro ⟨default, a, hmem⟩
      obtain ⟨index, first, hfounded⟩ := h.founded_of_mem name default a hmem
      exact ⟨_, h.resolveAs?_eq_some_iff.2 ⟨index, first, hfounded, rfl⟩⟩
  | describe index => exact ⟨fun d ↦ h.descriptor?_eq_some_iff, h.concat_of_none rfl⟩

theorem history_cons (op : RegistryOp) (ops : List RegistryOp) (registry : Registry) :
    Registry.history (op :: ops) registry =
      ((op.record registry).1 :: (Registry.history ops (op.record registry).2).1,
        (Registry.history ops (op.record registry).2).2) :=
  rfl

/-- **All requests** are answered as the history demands, and recounted with it. -/
theorem Recounts.run (h : registry.Recounts id limit history) (ops : List RegistryOp) :
    (∀ earlier moment later, (Registry.history ops registry).1 = earlier ++ moment :: later →
      moment.Follows id limit (history ++ earlier)) ∧
    (Registry.history ops registry).2.Recounts id limit
      (history ++ (Registry.history ops registry).1) := by
  -- By induction on the requests: each moment joins the history that the later ones are judged by.
  induction ops generalizing registry history with
  | nil =>
    refine ⟨fun earlier moment later hsplit ↦ ?_, (List.append_nil history).symm ▸ h⟩
    cases earlier <;> cases hsplit
  | cons op ops ih =>
    obtain ⟨hfollows, hrecounts⟩ := h.record op
    obtain ⟨hrest, hleft⟩ := ih hrecounts
    rw [history_cons]
    constructor
    · rintro (- | ⟨first, earlier⟩) moment later hsplit
      · obtain ⟨hmoment, -⟩ := List.cons_eq_cons.1 hsplit
        rwa [List.append_nil, ← hmoment]
      · obtain ⟨hfirst, htail⟩ := List.cons_eq_cons.1 hsplit
        have hmoment := hrest earlier moment later htail
        rwa [List.append_assoc, hfirst] at hmoment
    · rwa [List.append_assoc] at hleft

end Recounts

/-! ### Refused requests -/

section Refused

variable {registry : Registry} {ops : List RegistryOp}

/-- An operation that is refused leaves the registry as it is. -/
theorem record_of_refused {op : RegistryOp} (h : (op.record registry).1.isRefused = true) :
    (op.record registry).2 = registry := by
  cases op with
  | declare name default =>
    show (Registry.declare name default registry).2 = registry
    have hrefused : (RegistryMoment.declared name default
      (Registry.declare name default registry).1).isRefused = true := h
    cases hresolve : registry.resolve? name with
    | some d => rw [declare_of_known hresolve]
    | none =>
      rcases Nat.lt_or_ge registry.length registry.slotLimit with hfree | hfull
      · rw [declare_of_free hresolve hfree] at hrefused
        cases hrefused
      · rw [declare_of_full hresolve hfull]
  | _ => rfl

/-- The other requests are answered as if one that was refused had not been made. -/
theorem history_eraseIdx {earlier later : List RegistryMoment} {moment : RegistryMoment}
    (h : (Registry.history ops registry).1 = earlier ++ moment :: later)
    (hrefused : moment.isRefused = true) :
    Registry.history (ops.eraseIdx earlier.length) registry =
      (earlier ++ later, (Registry.history ops registry).2) := by
  -- The two runs agree up to the refused request, which leaves the registry that it finds.
  induction earlier generalizing ops registry with
  | nil =>
    rcases ops with - | ⟨op, ops⟩
    · cases h
    · rw [history_cons] at h
      obtain ⟨hmoment, hlater⟩ := List.cons_eq_cons.1 h
      have hleft : (op.record registry).2 = registry := record_of_refused (hmoment ▸ hrefused)
      rw [hleft] at hlater
      rw [history_cons, hleft, ← hlater]
      rfl
  | cons first earlier ih =>
    rcases ops with - | ⟨op, ops⟩
    · cases h
    · rw [history_cons] at h
      obtain ⟨hfirst, hrest⟩ := List.cons_eq_cons.1 h
      show Registry.history (op :: ops.eraseIdx earlier.length) registry = _
      rw [history_cons, history_cons, ih hrest, hfirst]
      rfl

theorem map_op_history (ops : List RegistryOp) (registry : Registry) :
    (Registry.history ops registry).1.map RegistryMoment.op = ops := by
  induction ops generalizing registry with
  | nil => rfl
  | cons op ops ih =>
    rw [history_cons, List.map_cons, ih]
    congr 1
    cases op <;> rfl

end Refused

/-! ### The main result -/

/-- What can be relied on when requests to a registry that was new at first have this history. -/
structure Recalls (id limit : Nat) (ops : List RegistryOp) (history : List RegistryMoment)
    (registry : Registry) : Prop where
  /-- The history is that of the requests. -/
  asked : history.map RegistryMoment.op = ops
  /-- The slots and the table of names agree. -/
  indexed : registry.Indexed
  /-- Every request is answered as the moments before it demand. -/
  follows : ∀ earlier moment later, history = earlier ++ moment :: later →
    moment.Follows id limit earlier
  /-- What was founded at any time is to be found by its name and by its slot. -/
  lasting : ∀ earlier later, history = earlier ++ later → ∀ d, Founded earlier d →
    registry.resolve? d.name = some d ∧ registry.descriptor? d.index = some d
  /-- No two names share a slot, and no two slots a name. -/
  unique : ∀ d d', Founded history d → Founded history d' → d.name = d'.name ∨ d.index = d'.index →
    d = d'
  /-- Slots are taken in order. -/
  slots : ∀ index, index < registry.length ↔ ∃ d, Founded history d ∧ d.index = index
  /-- Finding a slot by its name and a name by its slot are inverse to each other. -/
  inverse : ∀ name index d, registry.resolve? name = some d ∧ d.index = index ↔
    registry.descriptor? index = some d ∧ d.name = name
  /-- There are as many slots as names. -/
  length_eq : registry.length = (granted history).card
  /-- The limit is kept. -/
  length_le : registry.length ≤ limit
  /-- A declaration that was refused might as well not have been made. -/
  refused : ∀ earlier moment later, history = earlier ++ moment :: later → moment.isRefused = true →
    Registry.history (ops.eraseIdx earlier.length) (.new id limit) = (earlier ++ later, registry)

/-- **Registries recall what they granted first.** -/
theorem recalls_history (id limit : Nat) (ops : List RegistryOp) :
    Recalls id limit ops (Registry.history ops (.new id limit)).1
      (Registry.history ops (.new id limit)).2 := by
  obtain ⟨hfollows, hrecounts⟩ := (recounts_new id limit).run ops
  refine
    { asked := map_op_history ops _
      indexed := hrecounts.indexed
      follows := hfollows
      lasting := fun earlier later hsplit d hfounded ↦ ?_
      unique := fun d d' hfounded hfounded' heq ↦ ?_
      slots := fun index ↦ ?_
      inverse := fun name index d ↦ ?_
      length_eq := hrecounts.length_eq
      length_le := hrecounts.length_le
      refused := fun earlier moment later hsplit hrefused ↦ history_eraseIdx hsplit hrefused }
  · have hd : Founded (Registry.history ops (.new id limit)).1 d := hsplit ▸ hfounded.append later
    exact ⟨hrecounts.resolve?_eq_some_iff.2 ⟨hd, rfl⟩, hrecounts.descriptor?_eq_some_iff.2 ⟨hd, rfl⟩⟩
  · rcases heq with hname | hindex
    · exact hfounded.eq_of_name hfounded' hname
    · have hslot := hrecounts.descriptor?_eq_some_iff.2 ⟨hfounded, hindex⟩
      have hslot' := hrecounts.descriptor?_eq_some_iff.2 ⟨hfounded', rfl⟩
      exact Option.some.inj (hslot.symm.trans hslot')
  · constructor
    · intro hlt
      exact ⟨_, hrecounts.descriptor?_eq_some_iff.1 (List.getElem?_eq_getElem hlt)⟩
    · rintro ⟨d, hd⟩
      exact (List.getElem?_eq_some_iff.1 (hrecounts.descriptor?_eq_some_iff.2 hd)).1
  · rw [hrecounts.resolve?_eq_some_iff, hrecounts.descriptor?_eq_some_iff, and_assoc, and_assoc,
      and_comm (a := d.name = name)]

end Registry

end Conduit
