import Conduit.Arena.Basic
import Mathlib.Algebra.Group.Nat.Defs
import Mathlib.Data.Option.Basic

/-!
# What lies on the free lists of an arena

Requests are rounded up to a class and returns are rounded down, so that a buffer on the free list of a
class is large enough for every request that is served from there. This holds however often buffers were
handed out and returned, and whatever became of them in between, because a list takes in nothing but
what fits its class (`Arena.Pooled`).

Up to the second largest class both roundings are exact about powers of two
(`SizeClass.shift_forCapacity_le_iff`, `SizeClass.floor?_eq_some_iff`). The largest class stands for a
capacity that cannot be allocated any more.
-/

namespace Conduit

/-! ### Rounding -/

namespace SizeClass

variable {shift capacity larger : Nat}

theorem shift_ofShift_le (shift : Nat) : (ofShift shift).shift ≤ largest.shift := by
  unfold ofShift
  split
  · exact Nat.le_refl _
  · next hle => exact Nat.not_lt.1 hle

theorem ofShift_of_le (h : shift ≤ largest.shift) : ofShift shift = ⟨shift⟩ :=
  if_neg (Nat.not_lt.2 h)

theorem shift_forCapacity_le (capacity : Nat) : (forCapacity capacity).shift ≤ largest.shift := by
  unfold forCapacity
  split
  · exact Nat.zero_le _
  · exact shift_ofShift_le _

/-- Below the largest class, a class suffices for just the capacities up to its power of two. -/
theorem shift_forCapacity_le_iff (h : shift < largest.shift) :
    (forCapacity capacity).shift ≤ shift ↔ capacity ≤ 2 ^ shift := by
  unfold forCapacity
  split
  · next hsmall =>
    exact iff_of_true (Nat.zero_le _) (Nat.le_trans hsmall Nat.one_le_two_pow)
  · next hlarge =>
    have hlog : (capacity - 1).log2 < shift ↔ capacity - 1 < 2 ^ shift := Nat.log2_lt (by omega)
    unfold ofShift
    split
    · next hover =>
      have hle : largest.shift ≤ (capacity - 1).log2 := Nat.lt_succ_iff.1 hover
      exact iff_of_false (Nat.not_le.2 h) (by omega)
    · show (capacity - 1).log2 + 1 ≤ shift ↔ _
      omega

/-- A larger capacity has no smaller class. -/
theorem forCapacity_mono (h : capacity ≤ larger) :
    (forCapacity capacity).shift ≤ (forCapacity larger).shift := by
  -- Below the largest class, classes are compared by the capacities that they suffice for.
  rcases Nat.lt_or_ge (forCapacity larger).shift largest.shift with hlt | hge
  · rw [shift_forCapacity_le_iff hlt]
    exact Nat.le_trans h ((shift_forCapacity_le_iff hlt).1 (Nat.le_refl _))
  · exact Nat.le_trans (shift_forCapacity_le capacity) hge

/-- A capacity is rounded up, as long as a class is large enough. -/
theorem le_bytes_forCapacity (h : capacity ≤ largest.bytes) :
    capacity ≤ (forCapacity capacity).bytes := by
  rcases Nat.lt_or_ge (forCapacity capacity).shift largest.shift with hlt | hge
  · exact (shift_forCapacity_le_iff hlt).1 (Nat.le_refl _)
  · exact Nat.le_trans h (Nat.pow_le_pow_right Nat.two_pos hge)

/-- A capacity is rounded down to the class with the next power of two. -/
theorem floor?_eq_some_iff {class_ : SizeClass} :
    floor? capacity = some class_ ↔
      2 ^ class_.shift ≤ capacity ∧ capacity < 2 ^ (class_.shift + 1) := by
  unfold floor?
  split
  · next hzero =>
    have hpos : 0 < 2 ^ class_.shift := Nat.two_pow_pos _
    exact iff_of_false nofun (by omega)
  · next hpos =>
    rw [← Nat.log2_eq_iff hpos, Option.some.injEq]
    exact ⟨congrArg shift, fun h ↦ congrArg mk h⟩

end SizeClass

namespace Scratch

variable {capacity : Nat}

/-- An allocation succeeds below half of the address space. -/
theorem allocate_of_lt (h : capacity < 2 ^ 63) : allocate capacity = .ok ⟨capacity, []⟩ :=
  if_neg (Nat.not_le.2 h)

/-- What is allocated is empty and as large as was asked for. -/
theorem eq_of_allocate {buffer : Scratch} (h : allocate capacity = .ok buffer) :
    buffer = ⟨capacity, []⟩ := by
  unfold allocate at h
  split at h
  · cases h
  · exact (Except.ok.inj h).symm

/-- The buffer may lie on the free list of this class. -/
structure Spare (shift : Nat) (buffer : Scratch) : Prop where
  empty : buffer.bytes = []
  le_capacity : 2 ^ shift ≤ buffer.capacity
  capacity_lt : buffer.capacity < 2 ^ (shift + 1)

end Scratch

namespace Arena

/-! ### Lists -/

section List

variable {arena : Arena} {shift other : Nat}

theorem list_setList (hmin : arena.minShift ≤ shift)
    (hslot : shift - arena.minShift < arena.lists.length) (buffers : List Scratch)
    (hother : arena.minShift ≤ other) :
    (arena.setList shift buffers).list other = if other = shift then buffers else arena.list other := by
  show (arena.lists.set (shift - arena.minShift) buffers).getD (other - arena.minShift) [] = _
  rw [List.getD_eq_getElem?_getD]
  split
  · next heq => rw [heq, List.getElem?_set_self hslot, Option.getD_some]
  · next hne =>
    rw [List.getElem?_set_ne (by omega), ← List.getD_eq_getElem?_getD]
    rfl

theorem flatten_map_nil {α β : Type} (lists : List α) :
    (lists.map fun _ ↦ ([] : List β)).flatten = [] :=
  List.flatten_eq_nil_iff.2 fun _ hlist ↦ (List.mem_map.1 hlist).choose_spec.2.symm

end List

/-! ### Requests -/

section Take

/-- The exponent of the class from which a request for a class is served. -/
def serving (arena : Arena) (class_ : SizeClass) : Nat :=
  max class_.shift arena.minShift

variable (class_ : SizeClass) (arena : Arena)

theorem minShift_le_serving : arena.minShift ≤ arena.serving class_ :=
  Nat.le_max_right ..

/-- A request is served from a class that is large enough. -/
theorem bytes_le_serving : class_.bytes ≤ 2 ^ arena.serving class_ :=
  Nat.pow_le_pow_right Nat.two_pos (Nat.le_max_left ..)

/-- A request is served from a free list, from a fresh allocation of that class, or, above the pooled
classes, from one of the requested size. -/
theorem take_cases :
    (∃ buffer rest, arena.serving class_ ≤ arena.maxShift ∧
      arena.list (arena.serving class_) = buffer :: rest ∧
      Arena.take class_ arena =
        (.ok buffer.clear, (arena.setList (arena.serving class_) rest).countReuse)) ∨
    (arena.serving class_ ≤ arena.maxShift ∧ arena.list (arena.serving class_) = [] ∧
      Arena.take class_ arena =
        (Scratch.allocate (SizeClass.ofShift (arena.serving class_)).bytes, arena.countFresh)) ∨
    (arena.maxShift < arena.serving class_ ∧
      Arena.take class_ arena = (Scratch.allocate class_.bytes, arena.countFresh)) := by
  have hserving : max class_.shift arena.minShift = arena.serving class_ := rfl
  rcases Nat.lt_or_ge arena.maxShift (arena.serving class_) with hover | hpooled
  · refine .inr (.inr ⟨hover, ?_⟩)
    simp only [Arena.take, bind, StateT.bind, get, getThe, MonadStateOf.get, StateT.get, pure,
      hserving, if_pos hover]
    rfl
  · cases hlist : arena.list (arena.serving class_) with
    | nil =>
      refine .inr (.inl ⟨hpooled, rfl, ?_⟩)
      simp only [Arena.take, bind, StateT.bind, get, getThe, MonadStateOf.get, StateT.get, pure,
        hserving, if_neg (Nat.not_lt.2 hpooled), hlist]
      rfl
    | cons buffer rest =>
      refine .inl ⟨buffer, rest, hpooled, rfl, ?_⟩
      simp only [Arena.take, bind, StateT.bind, get, getThe, MonadStateOf.get, StateT.get, pure,
        hserving, if_neg (Nat.not_lt.2 hpooled), hlist]
      rfl

end Take

/-! ### Returns -/

section Release

variable {arena : Arena} {buffer : Scratch} {shift : Nat}

/-- A buffer is accepted when it is rounded down to a pooled class whose list is not full. -/
theorem accepting?_eq_some_iff : arena.accepting? buffer = some shift ↔
    (arena.minShift ≤ shift ∧ shift ≤ arena.maxShift) ∧
      (2 ^ shift ≤ buffer.capacity ∧ buffer.capacity < 2 ^ (shift + 1)) ∧
      (arena.list shift).length < arena.limits.maxBuffersPerClass := by
  have hfloor : SizeClass.floor? buffer.capacity = some ⟨shift⟩ ↔ _ := SizeClass.floor?_eq_some_iff
  rw [← hfloor]
  simp only [accepting?, Option.bind_eq_bind, Option.bind_eq_some_iff, Option.guard_eq_some',
    exists_const, Option.pure_def, Option.some.injEq]
  constructor
  · rintro ⟨class_, hclass, hpooled, hroom, rfl⟩
    exact ⟨hpooled, hclass, hroom⟩
  · rintro ⟨hpooled, hclass, hroom⟩
    exact ⟨⟨shift⟩, hclass, hpooled, hroom, rfl⟩

/-- A buffer that is accepted is cleared and put in front. -/
theorem release_of_some (h : arena.accepting? buffer = some shift) :
    Arena.release buffer arena =
      (true, (arena.setList shift (buffer.clear :: arena.list shift)).countReleased) := by
  simp only [Arena.release, bind, StateT.bind, get, getThe, MonadStateOf.get, StateT.get, pure, h]
  rfl

/-- A buffer that is not accepted is counted and left alone. -/
theorem release_of_none (h : arena.accepting? buffer = none) :
    Arena.release buffer arena = (false, arena.countDiscarded) := by
  simp only [Arena.release, bind, StateT.bind, get, getThe, MonadStateOf.get, StateT.get, pure, h]
  rfl

end Release

/-! ### What every operation keeps -/

/-- An arena with these limits has a free list for every class between the two that the limits are
rounded up to, and keeps nothing on it but so many buffers of that class. -/
structure Pooled (limits : ArenaLimits) (arena : Arena) : Prop where
  limits_eq : arena.limits = limits
  minShift_eq : arena.minShift = (SizeClass.forCapacity limits.minClassBytes).shift
  maxShift_eq : arena.maxShift =
    (SizeClass.forCapacity (max limits.maxClassBytes limits.minClassBytes)).shift
  length_eq : arena.lists.length = arena.maxShift - arena.minShift + 1
  length_le : ∀ shift, arena.minShift ≤ shift → shift ≤ arena.maxShift →
    (arena.list shift).length ≤ limits.maxBuffersPerClass
  spare : ∀ shift, arena.minShift ≤ shift → shift ≤ arena.maxShift →
    ∀ buffer ∈ arena.list shift, buffer.Spare shift

section Pooled

variable {limits : ArenaLimits} {arena : Arena} {shift : Nat} {class_ : SizeClass} {capacity : Nat}

/-- The subtraction of the smallest exponent from the largest does not go below zero. -/
theorem Pooled.minShift_le (h : arena.Pooled limits) : arena.minShift ≤ arena.maxShift := by
  rw [h.minShift_eq, h.maxShift_eq]
  exact SizeClass.forCapacity_mono (Nat.le_max_right ..)

/-- A new arena keeps nothing, and has a list for every class between its limits. -/
theorem pooled_new (limits : ArenaLimits) : (Arena.new limits).Pooled limits := by
  have hlist : ∀ shift, (Arena.new limits).list shift = [] := by
    intro shift
    rw [list, List.getD_eq_getElem?_getD]
    show ((List.replicate _ ([] : List Scratch))[_]?).getD [] = []
    rw [List.getElem?_replicate]
    split <;> rfl
  refine ⟨rfl, rfl, rfl, List.length_replicate, fun shift _ _ ↦ ?_, fun shift _ _ ↦ ?_⟩
  · rw [hlist]
    exact Nat.zero_le _
  · rw [hlist]
    nofun

/-- The counters do not matter. -/
theorem Pooled.counters (h : arena.Pooled limits) (counters : ArenaStats) :
    Pooled limits { arena with counters } :=
  ⟨h.limits_eq, h.minShift_eq, h.maxShift_eq, h.length_eq, h.length_le, h.spare⟩

/-- A list may be replaced by any that is short enough and holds buffers of its class. -/
theorem Pooled.setList (h : arena.Pooled limits) (hmin : arena.minShift ≤ shift)
    (hmax : shift ≤ arena.maxShift) {buffers : List Scratch}
    (hlength : buffers.length ≤ limits.maxBuffersPerClass)
    (hspare : ∀ buffer ∈ buffers, buffer.Spare shift) :
    (arena.setList shift buffers).Pooled limits := by
  have hslot : shift - arena.minShift < arena.lists.length := by
    rw [h.length_eq]
    omega
  refine ⟨h.limits_eq, h.minShift_eq, h.maxShift_eq, List.length_set.trans h.length_eq,
    fun other hother hother' ↦ ?_, fun other hother hother' ↦ ?_⟩
  · rw [list_setList hmin hslot buffers hother]
    split
    · exact hlength
    · exact h.length_le other hother hother'
  · rw [list_setList hmin hslot buffers hother]
    split
    · next heq => rwa [heq]
    · exact h.spare other hother hother'

/-- **Requests** leave what they do not take. -/
theorem Pooled.take (h : arena.Pooled limits) (class_ : SizeClass) :
    (Arena.take class_ arena).2.Pooled limits := by
  rcases take_cases class_ arena with ⟨buffer, rest, hmax, hlist, heq⟩ | ⟨-, -, heq⟩ | ⟨-, heq⟩
  · have hmin := minShift_le_serving class_ arena
    have hlength := h.length_le _ hmin hmax
    have hspare := h.spare _ hmin hmax
    rw [hlist] at hlength hspare
    rw [heq]
    exact (h.setList hmin hmax (Nat.le_of_succ_le hlength)
      fun other hmem ↦ hspare other (List.mem_cons_of_mem _ hmem)).counters _
  · rw [heq]
    exact h.counters _
  · rw [heq]
    exact h.counters _

/-- **Returns** put a buffer where it fits, if anywhere. -/
theorem Pooled.release (h : arena.Pooled limits) (buffer : Scratch) :
    (Arena.release buffer arena).2.Pooled limits := by
  cases haccepting : arena.accepting? buffer with
  | none =>
    rw [release_of_none haccepting]
    exact h.counters _
  | some shift =>
    obtain ⟨⟨hmin, hmax⟩, ⟨hle, hlt⟩, hroom⟩ := accepting?_eq_some_iff.1 haccepting
    rw [release_of_some haccepting]
    refine (h.setList hmin hmax (h.limits_eq ▸ hroom) fun other hmem ↦ ?_).counters _
    rcases List.mem_cons.1 hmem with rfl | hmem
    · exact ⟨rfl, hle, hlt⟩
    · exact h.spare shift hmin hmax other hmem

theorem list_shrink (arena : Arena) (shift : Nat) : (Arena.shrink arena).2.list shift = [] := by
  show (arena.lists.map fun _ ↦ ([] : List Scratch)).getD _ [] = []
  rw [List.getD_eq_getElem?_getD, List.getElem?_map]
  cases arena.lists[shift - _]? <;> rfl

/-- A shrink keeps the classes of an arena. -/
theorem Pooled.shrink (h : arena.Pooled limits) : (Arena.shrink arena).2.Pooled limits := by
  refine ⟨h.limits_eq, h.minShift_eq, h.maxShift_eq, (List.length_map _).trans h.length_eq,
    fun shift _ _ ↦ ?_, fun shift _ _ ↦ ?_⟩
  · rw [list_shrink]
    exact Nat.zero_le _
  · rw [list_shrink]
    nofun

/-! ### What requests can rely on -/

/-- **A request** up to the second largest class is served with an empty buffer that is large enough,
unless only the largest class is pooled. -/
theorem Pooled.take_ok (h : arena.Pooled limits) (hlimit : limits.minClassBytes ≤ 2 ^ 62)
    (hclass : class_.bytes ≤ 2 ^ 62) :
    ∃ buffer, (Arena.take class_ arena).1 = .ok buffer ∧ buffer.bytes = [] ∧
      class_.bytes ≤ buffer.capacity := by
  have hshift : class_.shift ≤ 62 := (Nat.pow_le_pow_iff_right Nat.one_lt_two).1 hclass
  have hmin : arena.minShift ≤ 62 := by
    rw [h.minShift_eq]
    exact (SizeClass.shift_forCapacity_le_iff (by decide)).2 hlimit
  -- Whichever way the request is served, no more than `2 ^ 62` bytes are allocated.
  have hserving : arena.serving class_ ≤ 62 := Nat.max_le.2 ⟨hshift, hmin⟩
  have hbytes := bytes_le_serving class_ arena
  rcases take_cases class_ arena with ⟨buffer, rest, hmax, hlist, heq⟩ | ⟨-, -, heq⟩ | ⟨-, heq⟩
  · have hspare := h.spare _ (minShift_le_serving ..) hmax buffer (hlist ▸ List.mem_cons_self)
    rw [heq]
    exact ⟨buffer.clear, rfl, rfl, Nat.le_trans hbytes hspare.le_capacity⟩
  · have hlt : 2 ^ arena.serving class_ < 2 ^ 63 := Nat.pow_lt_pow_right Nat.one_lt_two (by omega)
    rw [heq, SizeClass.ofShift_of_le (Nat.le_trans hserving (by decide))]
    exact ⟨_, Scratch.allocate_of_lt hlt, rfl, hbytes⟩
  · rw [heq]
    exact ⟨_, Scratch.allocate_of_lt (Nat.lt_of_le_of_lt hclass (by decide)), rfl, Nat.le_refl _⟩

/-- **A request for a capacity succeeds** if neither it nor the least class is too large. -/
theorem Pooled.takeFor_ok (h : arena.Pooled limits) (hlimit : limits.minClassBytes ≤ 2 ^ 62)
    (hcapacity : capacity ≤ 2 ^ 62) :
    ∃ buffer, (Arena.takeFor capacity arena).1 = .ok buffer ∧ buffer.bytes = [] ∧
      capacity ≤ buffer.capacity := by
  have hshift : (SizeClass.forCapacity capacity).shift ≤ 62 :=
    (SizeClass.shift_forCapacity_le_iff (by decide)).2 hcapacity
  have hbytes : (SizeClass.forCapacity capacity).bytes ≤ 2 ^ 62 :=
    Nat.pow_le_pow_right Nat.two_pos hshift
  obtain ⟨buffer, hok, hempty, hle⟩ := h.take_ok hlimit hbytes
  have hrounded : capacity ≤ (SizeClass.forCapacity capacity).bytes :=
    SizeClass.le_bytes_forCapacity (Nat.le_trans hcapacity (by decide))
  exact ⟨buffer, hok, hempty, Nat.le_trans hrounded hle⟩

/-- **When a buffer is accepted**: its capacity is that of a pooled class, whose list is not full. -/
theorem Pooled.release_iff (h : arena.Pooled limits) (buffer : Scratch) :
    (Arena.release buffer arena).1 = true ↔
      ∃ shift, (arena.minShift ≤ shift ∧ shift ≤ arena.maxShift) ∧
        (2 ^ shift ≤ buffer.capacity ∧ buffer.capacity < 2 ^ (shift + 1)) ∧
        (arena.list shift).length < limits.maxBuffersPerClass := by
  rw [← h.limits_eq]
  simp only [← accepting?_eq_some_iff]
  cases haccepting : arena.accepting? buffer with
  | none =>
    rw [release_of_none haccepting]
    exact iff_of_false nofun nofun
  | some shift =>
    rw [release_of_some haccepting]
    exact iff_of_true rfl ⟨shift, rfl⟩

end Pooled

end Arena

end Conduit
