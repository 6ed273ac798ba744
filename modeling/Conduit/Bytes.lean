/-!
# Byte strings

Byte strings are lists of bytes. The readings of a byte string as a number stand here too.
-/

namespace Conduit

/-- A byte string. -/
abbrev Bytes := List UInt8

namespace Bytes

/-- The number whose base-256 digits are the bytes, most significant first. -/
def bigEndian (bytes : Bytes) : Nat :=
  bytes.foldl (fun n b ↦ 256 * n + b.toNat) 0

/-- The number whose base-256 digits are the bytes, least significant first. -/
def littleEndian (bytes : Bytes) : Nat :=
  bytes.foldr (fun b n ↦ b.toNat + 256 * n) 0

end Bytes

end Conduit
