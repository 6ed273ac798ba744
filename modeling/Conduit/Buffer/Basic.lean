import Conduit.Bytes
import Conduit.Text.Inspect

/-!
# Fragment buffers

A buffer holds a message as the fragments in which it arrived. Appending queues a fragment without
copying; the content of the buffer is the concatenation `toBytes`. Two things hold of every buffer
that is built by the operations of this library: no queued fragment is empty, and `length` is the
number of bytes held (`Sound`).
-/

namespace Conduit

/-- A byte string kept as a queue of fragments. -/
structure Buffer where
  /-- The queued fragments, oldest first. -/
  fragments : List Bytes
  /-- The number of bytes held. -/
  length : Nat
  deriving Inhabited, Repr

namespace Buffer

/-- No fragment is empty, and the length is the sum of the fragments' lengths. -/
structure Sound (buffer : Buffer) : Prop where
  /-- Empty fragments are never queued. -/
  nonempty : ∀ fragment ∈ buffer.fragments, fragment ≠ []
  /-- The length is kept up to date. -/
  length_eq : buffer.length = buffer.fragments.flatten.length

/-- The buffer without content. -/
def empty : Buffer :=
  ⟨[], 0⟩

/-- Queues a fragment; an empty one is dropped. -/
def append (buffer : Buffer) (fragment : Bytes) : Buffer :=
  if fragment.isEmpty then buffer
  else ⟨buffer.fragments ++ [fragment], buffer.length + fragment.length⟩

/-- The buffer with the given fragments, the empty ones left out. -/
def ofFragments (fragments : List Bytes) : Buffer :=
  fragments.foldl append empty

/-- The buffer with one fragment, or none when there are no bytes. -/
def ofBytes (bytes : Bytes) : Buffer :=
  empty.append bytes

/-- The content as one byte string. -/
def toBytes (buffer : Buffer) : Bytes :=
  buffer.fragments.flatten

/-- Whether no bytes are held. -/
def isEmpty (buffer : Buffer) : Bool :=
  buffer.length == 0

/-- The number of queued fragments. -/
def fragmentCount (buffer : Buffer) : Nat :=
  buffer.fragments.length

/-- The first fragment, or no bytes when there is none. -/
def chunk (buffer : Buffer) : Bytes :=
  buffer.fragments.headD []

/-- Hands over the content and leaves an empty buffer. -/
def take (buffer : Buffer) : Buffer × Buffer :=
  (buffer, empty)

/-- Drops the content. -/
def clear (_ : Buffer) : Buffer :=
  empty

/-- Two buffers are equal when their contents are, however these are cut into fragments. -/
instance : BEq Buffer where
  beq b c := b.length == c.length && b.toBytes == c.toBytes

/-- The inspection text of a buffer. -/
def inspect (buffer : Buffer) : String :=
  Text.inspectRecord "CompositeBuffer"
    [("len", toString buffer.length), ("fragments", toString buffer.fragmentCount)]

@[simp] theorem toBytes_append (buffer : Buffer) (fragment : Bytes) :
    (buffer.append fragment).toBytes = buffer.toBytes ++ fragment := by
  unfold append toBytes
  split <;> simp_all

@[simp] theorem append_nil (buffer : Buffer) : buffer.append [] = buffer := rfl

theorem Sound.empty : Sound empty :=
  ⟨by simp [Buffer.empty], rfl⟩

/-- Appending keeps a buffer sound. -/
theorem Sound.append {buffer : Buffer} (h : buffer.Sound) (fragment : Bytes) :
    (buffer.append fragment).Sound := by
  unfold Buffer.append
  split
  · exact h
  · refine ⟨?_, by simp [h.length_eq]⟩
    intro f hf
    rcases List.mem_append.1 hf with hf | hf
    · exact h.nonempty f hf
    · simp_all

theorem Sound.length_toBytes {buffer : Buffer} (h : buffer.Sound) :
    buffer.toBytes.length = buffer.length :=
  h.length_eq.symm

theorem ofFragments_concat (fragments : List Bytes) (fragment : Bytes) :
    ofFragments (fragments ++ [fragment]) = (ofFragments fragments).append fragment := by
  simp [ofFragments]

theorem fragments_append_of_ne_nil (buffer : Buffer) {fragment : Bytes} (h : fragment ≠ []) :
    (buffer.append fragment).fragments = buffer.fragments ++ [fragment] := by
  simp [append, h]

/-- Fragments that are not empty are kept as they are. -/
theorem fragments_ofFragments {fragments : List Bytes} (h : ∀ fragment ∈ fragments, fragment ≠ []) :
    (ofFragments fragments).fragments = fragments := by
  have hfold : ∀ buffer : Buffer,
      (fragments.foldl append buffer).fragments = buffer.fragments ++ fragments := by
    induction fragments with
    | nil => simp
    | cons fragment fragments ih =>
      intro buffer
      rw [List.foldl_cons, ih fun f hf ↦ h f (List.mem_cons_of_mem _ hf),
        fragments_append_of_ne_nil buffer (h fragment (by simp)), List.append_assoc,
        List.singleton_append]
  exact hfold empty

/-- A buffer that is made of fragments is sound, whatever they are. -/
theorem sound_ofFragments (fragments : List Bytes) : (ofFragments fragments).Sound := by
  have hfold : ∀ buffer : Buffer, buffer.Sound → (fragments.foldl append buffer).Sound := by
    induction fragments with
    | nil => exact fun _ h ↦ h
    | cons fragment fragments ih => exact fun _ h ↦ ih _ (h.append fragment)
  exact hfold empty .empty

end Buffer

end Conduit
