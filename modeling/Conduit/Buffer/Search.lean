import Conduit.Buffer.Basic

/-!
# Searching a buffer

The search for a byte sequence walks the fragments without joining them. It starts in the fragment
that holds the first admissible offset, which is sought from the back, so that a search of the tail
of a long buffer costs no more than the tail. Positions are worked out with checked subtractions and
checked slices; a check that fails ends the search with a `RangeFault`.
-/

namespace Conduit

/-- A position left the range it has to be in. -/
inductive RangeFault where
  /-- `subtrahend` was to be taken from the smaller `minuend`. -/
  | below (minuend subtrahend : Nat)
  /-- A fragment of `length` bytes was cut at `start`. -/
  | slice (start length : Nat)
  deriving DecidableEq, Repr

namespace Buffer

/-- The difference of two positions. -/
def difference (m n : Nat) : Except RangeFault Nat :=
  if n ≤ m then .ok (m - n) else .error (.below m n)

/-- The bytes of a fragment from `start` on. -/
def sliceFrom (fragment : Bytes) (start : Nat) : Except RangeFault Bytes :=
  if start ≤ fragment.length then .ok (fragment.drop start)
  else .error (.slice start fragment.length)

/-- The fragments from the one that holds `offset` on, and the offset at which that one starts. The
fragments before `stop` are given last to first, and `later` are the ones from `stop` on. -/
def locate (offset : Nat) : List Bytes → Nat → List Bytes → Except RangeFault (List Bytes × Nat)
  | [], _, later => .ok (later, 0)
  | fragment :: earlier, stop, later => do
    let start ← difference stop fragment.length
    if start ≤ offset then return (fragment :: later, start)
    locate offset earlier start (fragment :: later)

/-- What is left of the needle when it is laid over the bytes from their front: no bytes when it ends
among them, and nothing at all when a byte differs. -/
def matchFront : Bytes → Bytes → Option Bytes
  | _, [] => some []
  | [], needle => some needle
  | byte :: bytes, first :: needle => if byte = first then matchFront bytes needle else none

/-- Whether the needle stands at the front of the bytes that the fragments hold one after another. -/
def startsWith : List Bytes → Bytes → Bool
  | [], needle => needle.isEmpty
  | fragment :: rest, needle =>
    match matchFront fragment needle with
    | none => false
    | some [] => true
    | some needle => startsWith rest needle

/-- What the scan of one fragment comes to. -/
inductive Scan where
  /-- The needle starts at this offset. -/
  | found (offset : Nat)
  /-- Every later start is too close to the end. -/
  | exhausted
  /-- The needle does not start in this fragment. -/
  | absent
  deriving DecidableEq, Repr

/-- Tries the starts in one fragment, given from the offset `start` on, in order. A start counts
only when the needle's first byte stands there. -/
def scan (first : UInt8) (needle : Bytes) (lastStart : Nat) (rest : List Bytes) :
    Bytes → Nat → Scan
  | [], _ => .absent
  | byte :: bytes, start =>
    if byte = first then
      if lastStart < start then .exhausted
      else if startsWith ((byte :: bytes) :: rest) needle then .found start
      else scan first needle lastStart rest bytes (start + 1)
    else scan first needle lastStart rest bytes (start + 1)

/-- Tries the starts from the offset `start` on in fragments of which the first begins at `base`. -/
def scanAll (first : UInt8) (needle : Bytes) (lastStart start : Nat) :
    List Bytes → Nat → Except RangeFault (Option Nat)
  | [], _ => .ok none
  | fragment :: rest, base => do
    let tail ← sliceFrom fragment (start - base)
    match scan first needle lastStart rest tail (max base start) with
    | .found offset => return some offset
    | .exhausted => return none
    | .absent => scanAll first needle lastStart start rest (base + fragment.length)

/-- The search for the first start of the needle at the offset `start` or later. -/
def search (buffer : Buffer) (needle : Bytes) (start : Nat) : Except RangeFault (Option Nat) :=
  match needle with
  | [] => .ok (if start ≤ buffer.length then some start else none)
  | first :: _ =>
    if buffer.length - start < needle.length then .ok none
    else do
      let lastStart ← difference buffer.length needle.length
      let (fragments, base) ← locate start buffer.fragments.reverse buffer.length []
      scanAll first needle lastStart start fragments base

/-- The first offset at `start` or later where the needle stands in the content. -/
def findFrom? (buffer : Buffer) (needle : Bytes) (start : Nat) : Option Nat :=
  (buffer.search needle start).toOption.join

/-- The first offset where the needle stands in the content. -/
def find? (buffer : Buffer) (needle : Bytes) : Option Nat :=
  buffer.findFrom? needle 0

/-- Whether the needle stands anywhere in the content. -/
def containsSequence (buffer : Buffer) (needle : Bytes) : Bool :=
  (buffer.find? needle).isSome

end Buffer

end Conduit
