import Conduit.Bytes
import Conduit.Panic

/-!
# Scratch buffers

A growable byte string with a capacity. Writing past the capacity grows it to the largest of twice
the old capacity, the bytes needed, and eight.
-/

namespace Conduit

/-- A growable byte string. -/
structure Scratch where
  /-- The number of bytes that fit without growing. -/
  capacity : Nat
  /-- The bytes written. -/
  bytes : Bytes
  deriving DecidableEq, Repr, Inhabited

namespace Scratch

/-- An empty buffer of exactly the given capacity; none may exceed `2 ^ 63 - 1` bytes. -/
def allocate (capacity : Nat) : Except Panic Scratch :=
  if Nat.pow 2 63 ≤ capacity then .error .capacityOverflow else .ok ⟨capacity, []⟩

/-- The capacity once `more` further bytes are to be written. -/
def grown (scratch : Scratch) (more : Nat) : Nat :=
  let needed := scratch.bytes.length + more
  if more ≠ 0 ∧ scratch.capacity < needed then max (max (2 * scratch.capacity) needed) 8
  else scratch.capacity

/-- Appends bytes. -/
def write (scratch : Scratch) (bytes : Bytes) : Scratch :=
  ⟨scratch.grown bytes.length, scratch.bytes ++ bytes⟩

/-- Drops the bytes and keeps the capacity. -/
def clear (scratch : Scratch) : Scratch :=
  { scratch with bytes := [] }

end Scratch

end Conduit
