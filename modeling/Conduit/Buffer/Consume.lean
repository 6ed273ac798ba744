import Conduit.Buffer.Basic
import Conduit.Panic

/-!
# Reading a buffer from the front

A consuming operation takes bytes off the front of a buffer. It first compares what it needs with
what is left: when there is too little it fails with an `Overrun` and the buffer stays as it was.
-/

namespace Conduit

/-- A consuming operation asked for more bytes than the buffer holds. -/
inductive Overrun where
  /-- Skipping `count` bytes of `remaining`. -/
  | advance (count remaining : Nat)
  /-- Reading `count` bytes of `remaining`. -/
  | read (count remaining : Nat)
  deriving DecidableEq, Repr

namespace Overrun

/-- The message of an overrun. -/
def message : Overrun → String
  | advance count remaining =>
    "advance 越界：cnt = " ++ toString count ++ ", remaining = " ++ toString remaining
  | read count remaining =>
    "advance out of bounds: the len is " ++ toString remaining ++ " but advancing by " ++
      toString count

/-- An overrun unwinds with its message. -/
def panic (overrun : Overrun) : Panic :=
  .text overrun.message

end Overrun

namespace Buffer

/-- An operation on a buffer that takes bytes off its front. -/
abbrev Consume (α : Type) :=
  ExceptT Overrun (StateM Buffer) α

/-- The fragments that are left after the first bytes; a fragment used up is taken off. -/
def dropFront : List Bytes → Nat → List Bytes
  | fragments, 0 => fragments
  | [], _ + 1 => []
  | fragment :: rest, count + 1 =>
    if count + 1 < fragment.length then fragment.drop (count + 1) :: rest
    else dropFront rest (count + 1 - fragment.length)

/-- The first bytes, collected fragment by fragment. -/
def takeFront : List Bytes → Nat → Bytes
  | _, 0 => []
  | [], _ + 1 => []
  | fragment :: rest, count + 1 =>
    if count + 1 < fragment.length then fragment.take (count + 1)
    else fragment ++ takeFront rest (count + 1 - fragment.length)

/-- Skips `count` bytes. -/
def advance (count : Nat) : Consume Unit := do
  let buffer ← get
  if buffer.length < count then
    throw (.advance count buffer.length)
  set (⟨dropFront buffer.fragments count, buffer.length - count⟩ : Buffer)

/-- Takes off the first `count` bytes as one byte string. -/
def read (count : Nat) : Consume Bytes := do
  let buffer ← get
  if buffer.length < count then
    throw (.read count buffer.length)
  set (⟨dropFront buffer.fragments count, buffer.length - count⟩ : Buffer)
  return takeFront buffer.fragments count

/-- Reads a number of `width` bytes, most significant byte first. -/
def readUnsigned (width : Nat) : Consume Nat :=
  Bytes.bigEndian <$> read width

/-- Reads a number of `width` bytes, least significant byte first. -/
def readUnsignedReversed (width : Nat) : Consume Nat :=
  Bytes.littleEndian <$> read width

/-- Reads a two's-complement number of `width` bytes, most significant byte first. -/
def readSigned (width : Nat) : Consume Int :=
  (fun n : Nat ↦ Int.bmod n (Nat.pow 256 width)) <$> readUnsigned width

end Buffer

end Conduit
