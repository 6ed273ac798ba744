import Conduit.Proofs.Buffer.Consume
import Conduit.Proofs.Buffer.Search
import Mathlib.Data.List.Induction
import Mathlib.Data.List.Infix
import Mathlib.Logic.Function.Basic

/-!
# Buffers act as byte strings

A run of operations on any number of buffers is compared with the same run on plain byte strings. Both
are runs of one definition (`ByteStore.run`), for two ways of keeping bytes: fragment by fragment
(`ByteStore.buffers`), and in one piece (`ByteStore.strings`), where an operation is what it says on
lists. The answers are the same and so are the contents left (`Shelf.acts_flat`); the cuts between
fragments show only where a buffer is asked for its fragments.

The invariant is that every buffer is sound and holds the content of the string in its place
(`Shelf.Holds`). It has one lemma for a place that changes, and every operation changes places one by
one.
-/

namespace Conduit

/-! ### Operations -/

/-- What a buffer answers. -/
inductive BufferAnswer where
  | done
  | bytes (bytes : Bytes)
  | unsigned (n : Nat)
  | signed (n : Int)
  | flag (holds : Bool)
  | offset (found : Option Nat)
  | overrun (overrun : Overrun)
  deriving DecidableEq

/-- An operation that takes bytes off the front. -/
inductive BufferReading where
  | skip (count : Nat)
  | copy (count : Nat)
  /-- A number, most significant byte first. -/
  | unsigned (width : Nat)
  /-- A number, least significant byte first. -/
  | unsignedReversed (width : Nat)
  /-- A number in two's complement, most significant byte first. -/
  | signed (width : Nat)

/-- An operation that changes nothing. -/
inductive BufferQuestion where
  | length
  | isEmpty
  | content
  | findFrom (needle : Bytes) (start : Nat)
  | find (needle : Bytes)
  | contains (needle : Bytes)

/-- An operation on numbered places, each of which holds a buffer. -/
inductive ShelfOp where
  | ofBytes (place : Nat) (bytes : Bytes)
  | ofFragments (place : Nat) (fragments : List Bytes)
  | clone (source place : Nat)
  | take (source place : Nat)
  | clear (place : Nat)
  | append (place : Nat) (fragment : Bytes)
  | read (place : Nat) (reading : BufferReading)
  | ask (place : Nat) (question : BufferQuestion)
  | equal (left right : Nat)

/-- A way of keeping byte strings, with all that can be done to them. -/
structure ByteStore (B : Type) where
  empty : B
  ofBytes : Bytes → B
  ofFragments : List Bytes → B
  /-- What is handed over, and what is left. -/
  take : B → B × B
  clear : B → B
  append : B → Bytes → B
  read : B → BufferReading → BufferAnswer × B
  ask : B → BufferQuestion → BufferAnswer
  equal : B → B → Bool

/-- What a run of operations came to. -/
structure ShelfRun (B : Type) where
  /-- The answers, one after another. -/
  answers : List BufferAnswer
  /-- What the places hold in the end. -/
  shelf : Nat → B

namespace ByteStore

variable {B : Type}

/-- Carries out an operation. -/
def step (store : ByteStore B) (shelf : Nat → B) : ShelfOp → BufferAnswer × (Nat → B)
  | .ofBytes place bytes => (.done, Function.update shelf place (store.ofBytes bytes))
  | .ofFragments place fragments =>
    (.done, Function.update shelf place (store.ofFragments fragments))
  | .clone source place => (.done, Function.update shelf place (shelf source))
  | .take source place =>
    let (taken, left) := store.take (shelf source)
    (.done, Function.update (Function.update shelf source left) place taken)
  | .clear place => (.done, Function.update shelf place (store.clear (shelf place)))
  | .append place fragment =>
    (.done, Function.update shelf place (store.append (shelf place) fragment))
  | .read place reading =>
    let (answer, left) := store.read (shelf place) reading
    (answer, Function.update shelf place left)
  | .ask place question => (store.ask (shelf place) question, shelf)
  | .equal left right => (.flag (store.equal (shelf left) (shelf right)), shelf)

/-- Carries out operations one after another. -/
def run (store : ByteStore B) : (Nat → B) → List ShelfOp → ShelfRun B
  | shelf, [] => ⟨[], shelf⟩
  | shelf, op :: ops =>
    let (answer, shelf) := store.step shelf op
    let rest := store.run shelf ops
    { rest with answers := answer :: rest.answers }

end ByteStore

/-! ### In fragments -/

/-- What a consuming operation is told to have come to. -/
def Buffer.Consume.told {α : Type} (answer : α → BufferAnswer) (operation : Buffer.Consume α)
    (buffer : Buffer) : BufferAnswer × Buffer :=
  match operation buffer with
  | (.ok value, left) => (answer value, left)
  | (.error overrun, left) => (.overrun overrun, left)

/-- Takes bytes off the front of a buffer. -/
def BufferReading.perform (buffer : Buffer) : BufferReading → BufferAnswer × Buffer
  | skip count => Buffer.Consume.told (fun _ ↦ .done) (Buffer.advance count) buffer
  | copy count => Buffer.Consume.told .bytes (Buffer.read count) buffer
  | unsigned width => Buffer.Consume.told .unsigned (Buffer.readUnsigned width) buffer
  | unsignedReversed width =>
    Buffer.Consume.told .unsigned (Buffer.readUnsignedReversed width) buffer
  | signed width => Buffer.Consume.told .signed (Buffer.readSigned width) buffer

/-- Asks a buffer. -/
def BufferQuestion.ask (buffer : Buffer) : BufferQuestion → BufferAnswer
  | length => .unsigned buffer.length
  | isEmpty => .flag buffer.isEmpty
  | content => .bytes buffer.toBytes
  | findFrom needle start => .offset (buffer.findFrom? needle start)
  | find needle => .offset (buffer.find? needle)
  | contains needle => .flag (buffer.containsSequence needle)

/-- Bytes kept in buffers. -/
def ByteStore.buffers : ByteStore Buffer where
  empty := .empty
  ofBytes := .ofBytes
  ofFragments := .ofFragments
  take := Buffer.take
  clear := Buffer.clear
  append := Buffer.append
  read buffer reading := reading.perform buffer
  ask buffer question := question.ask buffer
  equal left right := left == right

/-! ### In one piece -/

/-- The first offset at `start` or later at which the needle stands. -/
def Bytes.findFrom? (content needle : Bytes) (start : Nat) : Option Nat :=
  (List.range' start (content.length + 1 - start)).find? fun offset ↦
    needle.isPrefixOf (content.drop offset)

namespace BufferReading

/-- The number of bytes that are taken off. -/
def size : BufferReading → Nat
  | skip count | copy count => count
  | unsigned width | unsignedReversed width | signed width => width

/-- The overrun when fewer bytes remain. -/
def overrun (reading : BufferReading) (remaining : Nat) : Overrun :=
  match reading with
  | skip count => .advance count remaining
  | _ => .read reading.size remaining

/-- What the bytes that are taken off stand for. -/
def value : BufferReading → Bytes → BufferAnswer
  | skip _, _ => .done
  | copy _, bytes => .bytes bytes
  | unsigned _, bytes => .unsigned (Nat.ofDigits 256 (bytes.reverse.map UInt8.toNat))
  | unsignedReversed _, bytes => .unsigned (Nat.ofDigits 256 (bytes.map UInt8.toNat))
  | signed width, bytes =>
    .signed (BitVec.ofNat (8 * width) (Nat.ofDigits 256 (bytes.reverse.map UInt8.toNat))).toInt

/-- Takes bytes off the front of a byte string. -/
def performFlat (content : Bytes) (reading : BufferReading) : BufferAnswer × Bytes :=
  if content.length < reading.size then (.overrun (reading.overrun content.length), content)
  else (reading.value (content.take reading.size), content.drop reading.size)

end BufferReading

/-- Asks a byte string. -/
def BufferQuestion.askFlat (content : Bytes) : BufferQuestion → BufferAnswer
  | length => .unsigned content.length
  | isEmpty => .flag content.isEmpty
  | .content => .bytes content
  | findFrom needle start => .offset (Bytes.findFrom? content needle start)
  | find needle => .offset (Bytes.findFrom? content needle 0)
  | contains needle => .flag (needle <:+: content)

/-- Bytes kept in one piece. -/
def ByteStore.strings : ByteStore Bytes where
  empty := []
  ofBytes bytes := bytes
  ofFragments fragments := fragments.flatten
  take content := (content, [])
  clear _ := []
  append content fragment := content ++ fragment
  read content reading := reading.performFlat content
  ask content question := question.askFlat content
  equal left right := left = right

/-! ### Operation by operation -/

/-- What is told of an operation that only compares a length before it does anything. -/
theorem Buffer.Consume.told_of_compared {α : Type} {operation : Buffer.Consume α} {buffer left : Buffer}
    {short : Prop} [Decidable short] {overrun : Overrun} {value : α}
    (h : operation buffer = if short then (.error overrun, buffer) else (.ok value, left))
    (answer : α → BufferAnswer) :
    told answer operation buffer =
      if short then (.overrun overrun, buffer) else (answer value, left) := by
  simp only [told, h]
  split_ifs <;> rfl

/-- A buffer reads what its content says, and what it cannot read leaves it as it was. -/
theorem BufferReading.perform_eq (reading : BufferReading) (buffer : Buffer) :
    reading.perform buffer =
      if buffer.length < reading.size then (.overrun (reading.overrun buffer.length), buffer)
      else (reading.value (buffer.toBytes.take reading.size), buffer.dropped reading.size) := by
  cases reading with
  | skip count => exact Buffer.Consume.told_of_compared (Buffer.advance_eq count buffer) _
  | copy count => exact Buffer.Consume.told_of_compared (Buffer.read_eq count buffer) _
  | unsigned width => exact Buffer.Consume.told_of_compared (Buffer.readUnsigned_eq width buffer) _
  | unsignedReversed width =>
    exact Buffer.Consume.told_of_compared (Buffer.readUnsignedReversed_eq width buffer) _
  | signed width => exact Buffer.Consume.told_of_compared (Buffer.readSigned_eq width buffer) _

namespace Buffer

/-- There is one first occurrence at most. -/
theorem IsFirstOccurrence.eq {content needle : Bytes} {start : Nat} {found found' : Option Nat}
    (h : IsFirstOccurrence content needle start found)
    (h' : IsFirstOccurrence content needle start found') : found = found' := by
  rcases found with - | offset <;> rcases found' with - | offset'
  · rfl
  · exact absurd h'.2.1 (h offset' h'.1)
  · exact absurd h.2.1 (h' offset h.1)
  · rcases Nat.lt_trichotomy offset offset' with hlt | heq | hgt
    · exact absurd h.2.1 (h'.2.2 offset h.1 hlt)
    · rw [heq]
    · exact absurd h'.2.1 (h.2.2 offset' h'.1 hgt)

theorem isFirstOccurrence_bytes (content needle : Bytes) (start : Nat) :
    IsFirstOccurrence content needle start (Bytes.findFrom? content needle start) := by
  unfold Bytes.findFrom?
  rcases hfind : (List.range' start (content.length + 1 - start)).find? fun offset ↦
    needle.isPrefixOf (content.drop offset) with - | offset
  · rw [List.find?_range'_eq_none] at hfind
    rintro offset hstart ⟨hwithin, hoccurs⟩
    have hnone := hfind offset hstart (by omega)
    rw [List.isPrefixOf_iff_prefix.2 hoccurs] at hnone
    cases hnone
  · rw [List.find?_range'_eq_some] at hfind
    obtain ⟨hoccurs, hmem, hleast⟩ := hfind
    rw [List.mem_range'_1] at hmem
    refine ⟨hmem.1, ⟨by omega, List.isPrefixOf_iff_prefix.1 hoccurs⟩, ?_⟩
    rintro earlier hstart hlt ⟨-, hearlier⟩
    have hnot := hleast earlier hstart hlt
    rw [List.isPrefixOf_iff_prefix.2 hearlier] at hnot
    cases hnot

variable {buffer other : Buffer}

/-- The search through the fragments finds what stands in the content. -/
theorem Sound.findFrom?_eq (h : buffer.Sound) (needle : Bytes) (start : Nat) :
    buffer.findFrom? needle start = Bytes.findFrom? buffer.toBytes needle start :=
  (isFirstOccurrence_findFrom? h needle start).eq (isFirstOccurrence_bytes ..)

theorem Sound.isEmpty_eq (h : buffer.Sound) : buffer.isEmpty = buffer.toBytes.isEmpty := by
  rw [isEmpty, ← h.length_toBytes]
  cases buffer.toBytes <;> rfl

/-- Buffers are equal when their contents are. -/
theorem Sound.beq_iff (h : buffer.Sound) (hother : other.Sound) :
    (buffer == other) = true ↔ buffer.toBytes = other.toBytes := by
  show (buffer.length == other.length && buffer.toBytes == other.toBytes) = true ↔ _
  rw [Bool.and_eq_true, beq_iff_eq, beq_iff_eq, ← h.length_toBytes, ← hother.length_toBytes]
  exact ⟨And.right, fun heq ↦ ⟨congrArg List.length heq, heq⟩⟩

/-- Questions are answered by the content alone. -/
theorem Sound.ask_eq (h : buffer.Sound) (question : BufferQuestion) :
    question.ask buffer = question.askFlat buffer.toBytes := by
  cases question with
  | length => rw [BufferQuestion.ask, BufferQuestion.askFlat, h.length_toBytes]
  | isEmpty => rw [BufferQuestion.ask, BufferQuestion.askFlat, h.isEmpty_eq]
  | content => rfl
  | findFrom needle start => rw [BufferQuestion.ask, BufferQuestion.askFlat, h.findFrom?_eq]
  | find needle => rw [BufferQuestion.ask, BufferQuestion.askFlat, find?, h.findFrom?_eq]
  | contains needle =>
    rw [BufferQuestion.ask, BufferQuestion.askFlat, BufferAnswer.flag.injEq, Bool.eq_iff_iff,
      containsSequence_iff h, decide_eq_true_iff]

theorem toBytes_ofFragments (fragments : List Bytes) :
    (ofFragments fragments).toBytes = fragments.flatten := by
  induction fragments using List.reverseRecOn with
  | nil => rfl
  | append_singleton fragments fragment ih =>
    rw [ofFragments_concat, toBytes_append, ih, List.flatten_append, List.flatten_singleton]

end Buffer

/-! ### Runs -/

namespace Shelf

open ByteStore

/-- Every buffer is sound, and holds the content of the string in its place. -/
def Holds (shelf : Nat → Buffer) (contents : Nat → Bytes) : Prop :=
  ∀ place, (shelf place).Sound ∧ (shelf place).toBytes = contents place

variable {shelf : Nat → Buffer} {contents : Nat → Bytes}

/-- A buffer is put in one place, and its content in the same place. -/
theorem Holds.update (h : Holds shelf contents) (place : Nat) {buffer : Buffer} {content : Bytes}
    (hsound : buffer.Sound) (hcontent : buffer.toBytes = content) :
    Holds (Function.update shelf place buffer) (Function.update contents place content) := by
  intro other
  rcases eq_or_ne other place with rfl | hne
  · rw [Function.update_self, Function.update_self]
    exact ⟨hsound, hcontent⟩
  · rw [Function.update_of_ne hne, Function.update_of_ne hne]
    exact h other

/-- A reading takes from a buffer what it takes from the content. -/
theorem Holds.read (h : Holds shelf contents) (place : Nat) (reading : BufferReading) :
    (reading.perform (shelf place)).1 = (reading.performFlat (contents place)).1 ∧
      (reading.perform (shelf place)).2.Sound ∧
      (reading.perform (shelf place)).2.toBytes = (reading.performFlat (contents place)).2 := by
  obtain ⟨hsound, hcontent⟩ := h place
  rw [BufferReading.perform_eq, BufferReading.performFlat, ← hcontent, ← hsound.length_toBytes]
  split
  · exact ⟨rfl, hsound, rfl⟩
  · exact ⟨rfl, hsound.dropped _, Buffer.toBytes_dropped ..⟩

/-- **One operation** is answered alike, and leaves the places alike. -/
theorem Holds.step (h : Holds shelf contents) (op : ShelfOp) :
    (buffers.step shelf op).1 = (strings.step contents op).1 ∧
      Holds (buffers.step shelf op).2 (strings.step contents op).2 := by
  cases op with
  | ofBytes place bytes =>
    exact ⟨rfl, h.update place (Buffer.Sound.empty.append bytes) (Buffer.toBytes_append ..)⟩
  | ofFragments place fragments =>
    exact ⟨rfl, h.update place (Buffer.sound_ofFragments fragments)
      (Buffer.toBytes_ofFragments fragments)⟩
  | clone source place => exact ⟨rfl, h.update place (h source).1 (h source).2⟩
  | take source place =>
    exact ⟨rfl, (h.update source .empty rfl).update place (h source).1 (h source).2⟩
  | clear place => exact ⟨rfl, h.update place .empty rfl⟩
  | append place fragment =>
    have hcontent : ((shelf place).append fragment).toBytes = contents place ++ fragment := by
      rw [Buffer.toBytes_append, (h place).2]
    exact ⟨rfl, h.update place ((h place).1.append fragment) hcontent⟩
  | read place reading =>
    obtain ⟨hanswer, hsound, hcontent⟩ := h.read place reading
    exact ⟨hanswer, h.update place hsound hcontent⟩
  | ask place question =>
    refine ⟨?_, h⟩
    show question.ask (shelf place) = question.askFlat (contents place)
    rw [(h place).1.ask_eq, (h place).2]
  | equal left right =>
    refine ⟨?_, h⟩
    show BufferAnswer.flag (shelf left == shelf right) = .flag (contents left = contents right)
    rw [BufferAnswer.flag.injEq, Bool.eq_iff_iff, (h left).1.beq_iff (h right).1, (h left).2,
      (h right).2, decide_eq_true_iff]

/-- **Runs** are answered alike, and leave the places alike. -/
theorem Holds.run (h : Holds shelf contents) (ops : List ShelfOp) :
    (buffers.run shelf ops).answers = (strings.run contents ops).answers ∧
      Holds (buffers.run shelf ops).shelf (strings.run contents ops).shelf := by
  -- By induction on the operations: what one leaves in the places is what the next finds there.
  induction ops generalizing shelf contents with
  | nil => exact ⟨rfl, h⟩
  | cons op ops ih =>
    obtain ⟨hanswer, hleft⟩ := h.step op
    obtain ⟨hanswers, hholds⟩ := ih hleft
    exact ⟨congrArg₂ List.cons hanswer hanswers, hholds⟩

/-- What can be relied on when operations on buffers that were empty at first have left this shelf. -/
structure ActsFlat (ops : List ShelfOp) (shelf : Nat → Buffer) : Prop where
  /-- The answers are those of byte strings. -/
  answers : (buffers.run (fun _ ↦ buffers.empty) ops).answers =
    (strings.run (fun _ ↦ strings.empty) ops).answers
  /-- So is what is left. -/
  contents : ∀ place,
    (shelf place).toBytes = (strings.run (fun _ ↦ strings.empty) ops).shelf place
  /-- No fragment is empty, and the length is that of the fragments together. -/
  sound : ∀ place, (shelf place).Sound
  /-- There is something at the front while bytes are left. -/
  chunk : ∀ place, 0 < (shelf place).length → (shelf place).chunk ≠ []
  /-- Buffers are equal when their contents are. -/
  equal_iff : ∀ left right,
    (shelf left == shelf right) = true ↔ (shelf left).toBytes = (shelf right).toBytes
  /-- Of two buffers with the same content, either may stand for the other. -/
  alike : ∀ left right, (shelf left).toBytes = (shelf right).toBytes → ∀ place later,
    (buffers.run (Function.update shelf place (shelf left)) later).answers =
      (buffers.run (Function.update shelf place (shelf right)) later).answers
  /-- What asks for too much leaves the buffer as it was, down to its fragments. -/
  overrun : ∀ place (reading : BufferReading), (shelf place).length < reading.size →
    reading.perform (shelf place) =
      (.overrun (reading.overrun (shelf place).length), shelf place)
  /-- A read is what becomes of copying and skipping first fragments, in whatever portions. -/
  copies : ∀ place count bytes left, Buffer.Copies (shelf place) count bytes left ↔
    Buffer.read count (shelf place) = (.ok bytes, left)

/-- **Buffers act as byte strings.** -/
theorem acts_flat (ops : List ShelfOp) :
    ActsFlat ops (buffers.run (fun _ ↦ buffers.empty) ops).shelf := by
  have hempty : Holds (fun _ ↦ buffers.empty) (fun _ ↦ strings.empty) := fun _ ↦ ⟨.empty, rfl⟩
  obtain ⟨hanswers, hholds⟩ := hempty.run ops
  refine
    { answers := hanswers
      contents := fun place ↦ (hholds place).2
      sound := fun place ↦ (hholds place).1
      chunk := fun place ↦ (hholds place).1.chunk_ne_nil
      equal_iff := fun left right ↦ (hholds left).1.beq_iff (hholds right).1
      alike := fun left right heq place later ↦ ?_
      overrun := fun place reading hshort ↦ ?_
      copies := fun place count bytes left ↦ (hholds place).1.copies_iff }
  -- Both shelves hold the same strings, so both later runs are compared with the run of those.
  · have hleft := hholds.update place (hholds left).1 (hholds left).2
    have hright := hholds.update place (hholds right).1 (heq.symm.trans (hholds left).2)
    exact (hleft.run later).1.trans (hright.run later).1.symm
  · rw [BufferReading.perform_eq, if_pos hshort]

end Shelf

end Conduit
