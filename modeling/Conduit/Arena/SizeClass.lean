/-!
# Size classes

A size class stands for a capacity that is a power of two, and is kept as the exponent. Capacities
are 64-bit numbers, so exponents end at 63.
-/

namespace Conduit

/-- A class of capacities: `2 ^ shift` bytes. -/
structure SizeClass where
  /-- The exponent. -/
  shift : Nat
  deriving DecidableEq, Ord, Repr, Inhabited

namespace SizeClass

/-- The number of bytes of a class. -/
def bytes (class_ : SizeClass) : Nat :=
  Nat.pow 2 class_.shift

/-- The largest class of a 64-bit address space. -/
def largest : SizeClass :=
  ⟨63⟩

/-- The class with the given exponent; exponents above the largest are lowered to it. -/
def ofShift (shift : Nat) : SizeClass :=
  if largest.shift < shift then largest else ⟨shift⟩

/-- The least class that holds `capacity` bytes, or the largest class when none does. -/
def forCapacity (capacity : Nat) : SizeClass :=
  if capacity ≤ 1 then ⟨0⟩
  else ofShift ((capacity - 1).log2 + 1)

/-- The greatest class of at most `capacity` bytes; there is none for zero. -/
def floor? (capacity : Nat) : Option SizeClass :=
  if capacity = 0 then none else some ⟨capacity.log2⟩

end SizeClass

end Conduit
