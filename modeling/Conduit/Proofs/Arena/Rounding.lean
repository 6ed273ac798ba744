import Conduit.Proofs.Arena.FreeLists
import Mathlib.Order.Bounds.Basic
import Mathlib.Order.BoundedOrder.Lattice

/-!
# Rounding to powers of two

A class is compared with a capacity by its power of two alone, in both directions of rounding: the class
that a capacity is rounded up to is at most another one exactly when that one holds the capacity
(`SizeClass.shift_forCapacity_le_iff_of_le`), and the class that it is rounded down to is at least another
one exactly when the capacity holds that one (`SizeClass.le_shift_of_floor?_iff`). How the two directions fit
together follows from these comparisons. Both classes can also be read off the leading zeros of a 64-bit
number (`SizeClass.floor?_eq_clz`, `SizeClass.forCapacity_eq_clz`).

Rounding up ends at the largest class, which holds `2 ^ 63` bytes. A larger capacity is rounded up to a class
that does not hold it.
-/

namespace Conduit

namespace SizeClass

variable {capacity larger request shift : Nat} {class_ other : SizeClass}

/-- Classes are in the order of their exponents. -/
theorem isLE_compare : (compare class_ other).isLE = true ↔ class_.shift ≤ other.shift := by
  obtain ⟨shift⟩ := class_
  obtain ⟨shift'⟩ := other
  show ((compare shift shift').then .eq).isLE = true ↔ shift ≤ shift'
  rw [Ordering.then_eq, Nat.isLE_compare]

/-! ### Up and down -/

/-- A capacity is rounded up to the least class that has room for it. -/
theorem shift_forCapacity_le_iff_of_le (h : capacity ≤ 2 ^ 63) :
    (forCapacity capacity).shift ≤ shift ↔ capacity ≤ 2 ^ shift := by
  rcases Nat.lt_or_ge shift largest.shift with hlt | hge
  · exact shift_forCapacity_le_iff hlt
  · exact iff_of_true (Nat.le_trans (shift_forCapacity_le capacity) hge)
      (Nat.le_trans h (Nat.pow_le_pow_right Nat.two_pos hge))

theorem forCapacity_of_lt (h : 2 ^ 63 < capacity) : forCapacity capacity = largest := by
  have hover : largest.shift ≤ (forCapacity capacity).shift := by
    by_contra hlt
    have hholds := (shift_forCapacity_le_iff (Nat.not_le.1 hlt)).1 (Nat.le_refl _)
    have hle : 2 ^ (forCapacity capacity).shift ≤ 2 ^ 63 :=
      Nat.pow_le_pow_right Nat.two_pos (Nat.le_of_not_le hlt)
    omega
  exact congrArg mk (Nat.le_antisymm (shift_forCapacity_le capacity) hover)

/-- A capacity is rounded down to the greatest class that it has room for. -/
theorem le_shift_of_floor?_iff (h : floor? capacity = some class_) :
    shift ≤ class_.shift ↔ 2 ^ shift ≤ capacity := by
  obtain ⟨hle, hlt⟩ := floor?_eq_some_iff.1 h
  refine ⟨fun hshift ↦ Nat.le_trans (Nat.pow_le_pow_right Nat.two_pos hshift) hle, fun hshift ↦ ?_⟩
  have hbelow : shift < class_.shift + 1 :=
    (Nat.pow_lt_pow_iff_right Nat.one_lt_two).1 (Nat.lt_of_le_of_lt hshift hlt)
  exact Nat.lt_succ_iff.1 hbelow

/-- Only zero has no class below it. -/
theorem floor?_eq_none_iff : floor? capacity = none ↔ capacity = 0 := by
  simp [floor?]

theorem exists_floor? (h : capacity ≠ 0) : ∃ class_, floor? capacity = some class_ :=
  ⟨_, if_neg h⟩

/-- The bytes of the class above a capacity are the least power of two that is not below it. -/
theorem isLeast_bytes_forCapacity (h : capacity ≤ 2 ^ 63) :
    IsLeast {bytes | bytes.isPowerOfTwo ∧ max capacity 1 ≤ bytes} (forCapacity capacity).bytes := by
  refine ⟨⟨⟨_, rfl⟩, Nat.max_le.2 ⟨?_, Nat.one_le_two_pow⟩⟩, ?_⟩
  · exact (shift_forCapacity_le_iff_of_le h).1 (Nat.le_refl _)
  · rintro _ ⟨⟨shift, rfl⟩, hle⟩
    have hcapacity : capacity ≤ 2 ^ shift := Nat.le_trans (Nat.le_max_left ..) hle
    exact Nat.pow_le_pow_right Nat.two_pos ((shift_forCapacity_le_iff_of_le h).2 hcapacity)

/-- The bytes of the class below a capacity are the greatest power of two that is not above it. -/
theorem isGreatest_bytes_of_floor? (h : floor? capacity = some class_) :
    IsGreatest {bytes | bytes.isPowerOfTwo ∧ bytes ≤ capacity} class_.bytes := by
  refine ⟨⟨⟨_, rfl⟩, (le_shift_of_floor?_iff h).1 (Nat.le_refl _)⟩, ?_⟩
  rintro _ ⟨⟨shift, rfl⟩, hle⟩
  exact Nat.pow_le_pow_right Nat.two_pos ((le_shift_of_floor?_iff h).2 hle)

/-- A larger capacity is rounded down to no smaller class. -/
theorem floor?_mono (hle : capacity ≤ larger) (h : floor? capacity = some class_) :
    ∃ other, floor? larger = some other ∧ class_.shift ≤ other.shift := by
  have hholds := (floor?_eq_some_iff.1 h).1
  have hpos : 0 < 2 ^ class_.shift := Nat.two_pow_pos _
  have hne : larger ≠ 0 := by omega
  obtain ⟨other, hother⟩ := exists_floor? hne
  exact ⟨other, hother, (le_shift_of_floor?_iff hother).2 (Nat.le_trans hholds hle)⟩

/-- Both directions agree on powers of two. -/
theorem floor?_eq_forCapacity_iff (h : capacity ≤ 2 ^ 63) :
    floor? capacity = some (forCapacity capacity) ↔ capacity.isPowerOfTwo := by
  constructor
  · intro heq
    exact ⟨_, Nat.le_antisymm (le_bytes_forCapacity h) (floor?_eq_some_iff.1 heq).1⟩
  · rintro ⟨shift, rfl⟩
    have hholds := (shift_forCapacity_le_iff_of_le h).1 (Nat.le_refl _)
    have hup : (forCapacity (2 ^ shift)).shift = shift :=
      Nat.le_antisymm ((shift_forCapacity_le_iff_of_le h).2 (Nat.le_refl _))
        ((Nat.pow_le_pow_iff_right Nat.one_lt_two).1 hholds)
    rw [floor?_eq_some_iff, hup]
    exact ⟨Nat.le_refl _, Nat.pow_lt_pow_right Nat.one_lt_two (Nat.lt_succ_self shift)⟩

/-- What is rounded down to a class suffices for all that is rounded up to it. -/
theorem le_of_shift_forCapacity_le (hrequest : request ≤ 2 ^ 63) (h : floor? capacity = some class_)
    (hle : (forCapacity request).shift ≤ class_.shift) : request ≤ capacity :=
  Nat.le_trans ((shift_forCapacity_le_iff_of_le hrequest).1 hle) (floor?_eq_some_iff.1 h).1

/-! ### Words -/

/-- To round down is to take the highest bit of a word. -/
theorem floor?_eq_clz {word : BitVec 64} (h : word ≠ 0) :
    floor? word.toNat = some ⟨63 - word.clz.toNat⟩ := by
  have hzeros : word.clz.toNat < 64 := BitVec.clz_lt_iff_ne_zero.2 h
  have hlt := BitVec.toNat_lt_two_pow_sub_clz (x := word)
  have hwidth : 63 - word.clz.toNat + 1 = 64 - word.clz.toNat := by omega
  rw [← hwidth] at hlt
  exact floor?_eq_some_iff.2 ⟨BitVec.two_pow_sub_clz_le_toNat_of_ne_zero (by decide) h, hlt⟩

/-- To round up is to take the highest bit of the word before. -/
theorem forCapacity_eq_clz {word : BitVec 64} (h : 1 < word.toNat) :
    forCapacity word.toNat = ofShift (64 - (word - 1).clz.toNat) := by
  have hone : (1 : BitVec 64) ≤ word := Nat.le_of_lt h
  have hpred : (word - 1).toNat = word.toNat - 1 := BitVec.toNat_sub_of_le hone
  have hne : word - 1 ≠ 0 := by
    intro hzero
    rw [hzero] at hpred
    have hpos : (0 : BitVec 64).toNat = 0 := rfl
    omega
  have hfloor := floor?_eq_clz hne
  rw [hpred, floor?, if_neg (by omega), Option.some.injEq, mk.injEq] at hfloor
  have hzeros : (word - 1).clz.toNat < 64 := BitVec.clz_lt_iff_ne_zero.2 hne
  rw [forCapacity, if_neg (Nat.not_le.2 h), hfloor]
  congr 1
  omega

/-- A 64-bit one, shifted by the exponent, is not lost and is the bytes of the class. -/
def Shifts (class_ : SizeClass) : Prop :=
  class_.shift < 64 ∧ ((1 : UInt64) <<< UInt64.ofNat class_.shift).toNat = class_.bytes

/-- The classes that can be had, of any 64-bit capacity and of any 8-bit exponent. -/
inductive Available : SizeClass → Prop where
  | largest : Available largest
  | ofShift (shift : UInt8) : Available (ofShift shift.toNat)
  | forCapacity (capacity : UInt64) : Available (forCapacity capacity.toNat)
  | floor? (capacity : UInt64) {class_ : SizeClass} :
    floor? capacity.toNat = some class_ → Available class_

/-- The bytes of a class are got by shifting a one, which is not lost. -/
theorem shifts_of_le (h : class_.shift ≤ largest.shift) : class_.Shifts := by
  have hlt : class_.shift < 64 := Nat.lt_succ_of_le h
  refine ⟨hlt, ?_⟩
  rw [UInt64.toNat_shiftLeft, UInt64.toNat_ofNat_of_lt' (Nat.lt_trans hlt (by decide)),
    Nat.mod_eq_of_lt hlt, Nat.shiftLeft_eq]
  show 1 * 2 ^ class_.shift % 2 ^ 64 = 2 ^ class_.shift
  rw [Nat.one_mul, Nat.mod_eq_of_lt (Nat.pow_lt_pow_right Nat.one_lt_two hlt)]

theorem Available.shift_le (h : class_.Available) : class_.shift ≤ SizeClass.largest.shift := by
  cases h with
  | largest => exact Nat.le_refl _
  | ofShift shift => exact shift_ofShift_le _
  | forCapacity capacity => exact shift_forCapacity_le _
  | floor? capacity hfloor =>
    have hbelow := Nat.lt_of_le_of_lt (floor?_eq_some_iff.1 hfloor).1 capacity.toNat_lt
    exact Nat.lt_succ_iff.1 ((Nat.pow_lt_pow_iff_right Nat.one_lt_two).1 hbelow)

end SizeClass

/-! ### Capacities and classes -/

/-- A buffer is large enough for all requests that are served from its free list. -/
theorem Arena.le_capacity_of_accepting? {arena : Arena} {buffer : Scratch} {shift request : Nat}
    (h : arena.accepting? buffer = some shift) (hrequest : request ≤ 2 ^ 63)
    (hserving : arena.serving (SizeClass.forCapacity request) = shift) : request ≤ buffer.capacity := by
  have hle : (SizeClass.forCapacity request).shift ≤ shift := hserving ▸ Nat.le_max_left ..
  exact Nat.le_trans ((SizeClass.shift_forCapacity_le_iff_of_le hrequest).1 hle)
    (Arena.accepting?_eq_some_iff.1 h).2.1.1

namespace SizeClass

/-- How a 64-bit capacity is rounded. -/
structure Rounded (capacity : UInt64) : Prop where
  up : capacity.toNat ≤ 2 ^ 63 →
    IsLeast {bytes | bytes.isPowerOfTwo ∧ max capacity.toNat 1 ≤ bytes} (forCapacity capacity.toNat).bytes
  up_of_lt : 2 ^ 63 < capacity.toNat → forCapacity capacity.toNat = largest
  down_none_iff : floor? capacity.toNat = none ↔ capacity = 0
  down : 1 ≤ capacity.toNat → ∃ class_, floor? capacity.toNat = some class_ ∧
    IsGreatest {bytes | bytes.isPowerOfTwo ∧ bytes ≤ capacity.toNat} class_.bytes
  up_mono : ∀ larger : UInt64, capacity ≤ larger →
    (compare (forCapacity capacity.toNat) (forCapacity larger.toNat)).isLE = true
  down_mono : ∀ larger : UInt64, capacity ≤ larger → ∀ class_, floor? capacity.toNat = some class_ →
    ∃ other, floor? larger.toNat = some other ∧ (compare class_ other).isLE = true
  agree_iff : 1 ≤ capacity.toNat → capacity.toNat ≤ 2 ^ 63 →
    (floor? capacity.toNat = some (forCapacity capacity.toNat) ↔ capacity.toNat.isPowerOfTwo)
  /-- A request is not rounded up to what a smaller capacity is rounded down to. -/
  bracket : ∀ request : UInt64, request.toNat ≤ 2 ^ 63 → ∀ class_, floor? capacity.toNat = some class_ →
    (compare (forCapacity request.toNat) class_).isLE = true → request ≤ capacity
  /-- No buffer of this capacity serves a request from a free list that it cannot hold. -/
  filed : ∀ (arena : Arena) (buffer : Scratch) (shift : Nat), buffer.capacity = capacity.toNat →
    arena.accepting? buffer = some shift → ∀ request : UInt64, request.toNat ≤ 2 ^ 63 →
    arena.serving (forCapacity request.toNat) = shift → request ≤ capacity
  /-- The leading zeros tell the class below. -/
  down_bits : capacity ≠ 0 → floor? capacity.toNat = some ⟨63 - capacity.toBitVec.clz.toNat⟩
  /-- The leading zeros of the number before tell the class above. -/
  up_bits : 1 < capacity.toNat →
    forCapacity capacity.toNat = ofShift (64 - (capacity.toBitVec - 1).clz.toNat)

/-- **How capacities are rounded**. -/
theorem rounded (capacity : UInt64) : Rounded capacity where
  up := isLeast_bytes_forCapacity
  up_of_lt := forCapacity_of_lt
  down_none_iff := floor?_eq_none_iff.trans (UInt64.toNat_inj (b := 0))
  down hpos := by
    obtain ⟨class_, hclass⟩ := exists_floor? (Nat.ne_of_gt hpos)
    exact ⟨class_, hclass, isGreatest_bytes_of_floor? hclass⟩
  up_mono _ hle := isLE_compare.2 (forCapacity_mono hle)
  down_mono larger hle class_ hclass := by
    obtain ⟨other, hother, hshift⟩ := floor?_mono hle hclass
    exact ⟨other, hother, isLE_compare.2 hshift⟩
  agree_iff _ := floor?_eq_forCapacity_iff
  bracket _ hrequest _ hclass hle := le_of_shift_forCapacity_le hrequest hclass (isLE_compare.1 hle)
  filed arena buffer shift hcapacity haccepting request hrequest hserving := by
    have hle := Arena.le_capacity_of_accepting? haccepting hrequest hserving
    rwa [hcapacity] at hle
  down_bits hne := floor?_eq_clz fun hzero ↦ hne (UInt64.toBitVec_inj.1 hzero)
  up_bits := forCapacity_eq_clz

/-- **Rounding** is exact up to `2 ^ 63`, in both directions and however the two are combined, and no class is
too large for the shift that gives its bytes. -/
theorem rounded_words :
    (∀ capacity : UInt64, Rounded capacity) ∧ ∀ class_ : SizeClass, class_.Available → class_.Shifts :=
  ⟨rounded, fun _ havailable ↦ shifts_of_le havailable.shift_le⟩

end SizeClass

end Conduit
