import Conduit.Buffer.Consume
import Mathlib.Data.Nat.Digits.Defs

/-!
# Taking bytes off the front of a buffer

Consuming a buffer consumes its content. `dropFront` and `takeFront` work on the fragments, and what
they come to in terms of the joined bytes is `List.drop` and `List.take`; so `advance_eq`
and `read_eq` say in full what a skip and a read do.

A reader that does not read through `read` has only the first fragment to look at. It copies some of it,
skips what it has copied, and goes on with the next (`Copies`). However it cuts its work, it ends with
what `read` gives, and there is a way to end (`copies_iff`): no first fragment is empty while bytes are
left, so such a reader never waits for bytes that do not come.
-/

namespace Conduit

/-! ### Numbers -/

namespace Bytes

/-- The byte that comes first is the least significant digit. -/
theorem littleEndian_eq_ofDigits (bytes : Bytes) :
    bytes.littleEndian = Nat.ofDigits 256 (bytes.map UInt8.toNat) := by
  induction bytes with
  | nil => rfl
  | cons byte bytes ih =>
    rw [List.map_cons, Nat.ofDigits_cons, ← ih]
    rfl

/-- The byte that comes last is the least significant digit. -/
theorem bigEndian_eq_ofDigits (bytes : Bytes) :
    bytes.bigEndian = Nat.ofDigits 256 (bytes.reverse.map UInt8.toNat) := by
  have hreversed : bytes.bigEndian = Bytes.littleEndian bytes.reverse := by
    rw [bigEndian, littleEndian, List.foldr_reverse]
    simp only [Nat.add_comm]
  rw [hreversed, littleEndian_eq_ofDigits]

/-- Reading modulo a power of 256 into the numbers around zero is reading two's complement. -/
theorem bmod_eq_toInt (n width : Nat) :
    Int.bmod n (Nat.pow 256 width) = (BitVec.ofNat (8 * width) n).toInt := by
  have hpow : (2 : Nat) ^ (8 * width) = Nat.pow 256 width := Nat.pow_mul 2 8 width
  rw [BitVec.toInt_eq_toNat_bmod, BitVec.toNat_ofNat, hpow, Int.natCast_mod, Int.emod_bmod]

end Bytes

namespace Buffer

/-! ### Fragments -/

/-- Dropping from the fragments is dropping from the content, wherever the cuts are. -/
theorem flatten_dropFront (fragments : List Bytes) (count : Nat) :
    (dropFront fragments count).flatten = fragments.flatten.drop count := by
  fun_induction dropFront fragments count with
  | case1 => rfl
  | case2 => rfl
  | case3 fragment rest count hlt =>
    rw [List.flatten_cons, List.flatten_cons, List.drop_append_of_le_length (Nat.le_of_lt hlt)]
  | case4 fragment rest count hge ih =>
    rw [ih, List.flatten_cons, List.drop_append, List.drop_eq_nil_of_le (Nat.not_lt.1 hge),
      List.nil_append]

theorem takeFront_eq (fragments : List Bytes) (count : Nat) :
    takeFront fragments count = fragments.flatten.take count := by
  fun_induction takeFront fragments count with
  | case1 => rfl
  | case2 => rfl
  | case3 fragment rest count hlt =>
    rw [List.flatten_cons, List.take_append_of_le_length (Nat.le_of_lt hlt)]
  | case4 fragment rest count hge ih =>
    rw [ih, List.flatten_cons, List.take_append, List.take_of_length_le (Nat.not_lt.1 hge)]

/-- A fragment is dropped as soon as nothing of it is left. -/
theorem ne_nil_of_mem_dropFront {fragments : List Bytes} (count : Nat)
    (h : ∀ fragment ∈ fragments, fragment ≠ []) :
    ∀ fragment ∈ dropFront fragments count, fragment ≠ [] := by
  fun_induction dropFront fragments count with
  | case1 => exact h
  | case2 => simp
  | case3 fragment rest count hlt =>
    intro left hmem
    rcases List.mem_cons.1 hmem with rfl | hmem
    · rw [ne_eq, List.drop_eq_nil_iff]
      exact Nat.not_le.2 hlt
    · exact h left (List.mem_cons_of_mem _ hmem)
  | case4 fragment rest count hge ih =>
    exact ih fun left hmem ↦ h left (List.mem_cons_of_mem _ hmem)

/-- Skipping twice is skipping once. -/
theorem dropFront_dropFront (fragments : List Bytes) (first second : Nat) :
    dropFront (dropFront fragments first) second = dropFront fragments (first + second) := by
  fun_induction dropFront fragments first with
  | case1 fragments => rw [Nat.zero_add]
  | case2 first =>
    cases second <;> simp [dropFront]
  | case3 fragment rest first hlt =>
    cases second with
    | zero => rw [dropFront, Nat.add_zero, dropFront, if_pos hlt]
    | succ second =>
      rw [dropFront, List.length_drop, show first + 1 + (second + 1) = first + 1 + second + 1 by omega,
        dropFront]
      -- The second skip ends in the fragment in which the first one ended, or behind it.
      by_cases hwithin : second + 1 < fragment.length - (first + 1)
      · rw [if_pos hwithin, if_pos (by omega), List.drop_drop]
        rfl
      · rw [if_neg hwithin, if_neg (by omega)]
        congr 1
        omega
  | case4 fragment rest first hge ih =>
    rw [ih, show first + 1 + second = first + second + 1 by omega, dropFront, if_neg (by omega)]
    congr 1
    omega

/-! ### Skipping and reading -/

/-- The buffer without its first bytes. -/
def dropped (buffer : Buffer) (count : Nat) : Buffer :=
  ⟨dropFront buffer.fragments count, buffer.length - count⟩

variable {buffer : Buffer} {count : Nat}

@[simp] theorem toBytes_dropped (buffer : Buffer) (count : Nat) :
    (buffer.dropped count).toBytes = buffer.toBytes.drop count :=
  flatten_dropFront ..

theorem dropped_zero (buffer : Buffer) : buffer.dropped 0 = buffer := by
  rw [dropped, dropFront, Nat.sub_zero]

/-- Bytes can be dropped all at once or one part after another. -/
theorem dropped_dropped (buffer : Buffer) (first second : Nat) :
    (buffer.dropped first).dropped second = buffer.dropped (first + second) := by
  simp only [dropped, dropFront_dropFront, Nat.sub_sub]

/-- Dropping from the front leaves no empty fragment, and keeps the length right. -/
theorem Sound.dropped (h : buffer.Sound) (count : Nat) : (buffer.dropped count).Sound where
  nonempty := ne_nil_of_mem_dropFront count h.nonempty
  length_eq := by
    show buffer.length - count = (Buffer.dropFront buffer.fragments count).flatten.length
    rw [flatten_dropFront, List.length_drop, ← h.length_eq]

/-- A consuming operation compares first, and only then changes the buffer. -/
theorem compared_eq {α : Type} (short : Prop) [Decidable short] (overrun : Overrun) (left : Buffer)
    (value : α) (buffer : Buffer) :
    (do
      if short then throw overrun
      set left
      return value : Consume α) buffer =
        if short then (.error overrun, buffer) else (.ok value, left) := by
  split <;> rfl

/-- What is done with the bytes afterwards does not change what is taken off. -/
theorem map_of_compared {α β : Type} {operation : Consume α} {short : Prop} [Decidable short]
    {overrun : Overrun} {left : Buffer} {value : α}
    (h : operation buffer = if short then (.error overrun, buffer) else (.ok value, left))
    (f : α → β) :
    (f <$> operation) buffer = if short then (.error overrun, buffer) else (.ok (f value), left) := by
  simp only [Functor.map, ExceptT.map, ExceptT.mk, bind, StateT.bind, h]
  split <;> rfl

/-- A skip takes bytes off the content, or leaves the buffer as it was. -/
theorem advance_eq (count : Nat) (buffer : Buffer) :
    advance count buffer =
      if buffer.length < count then (.error (.advance count buffer.length), buffer)
      else (.ok (), buffer.dropped count) :=
  compared_eq (buffer.length < count) _ (buffer.dropped count) () buffer

/-- A read gives the bytes that it takes off the content, or leaves the buffer as it was. -/
theorem read_eq (count : Nat) (buffer : Buffer) :
    read count buffer =
      if buffer.length < count then (.error (.read count buffer.length), buffer)
      else (.ok (buffer.toBytes.take count), buffer.dropped count) := by
  rw [toBytes, ← takeFront_eq]
  exact compared_eq (buffer.length < count) _ (buffer.dropped count) _ buffer

/-- Reading a number as it is sent: most significant byte first, and nothing is taken when bytes are
missing. -/
theorem readUnsigned_eq (width : Nat) (buffer : Buffer) :
    readUnsigned width buffer =
      if buffer.length < width then (.error (.read width buffer.length), buffer)
      else (.ok (Nat.ofDigits 256 ((buffer.toBytes.take width).reverse.map UInt8.toNat)),
        buffer.dropped width) := by
  rw [← Bytes.bigEndian_eq_ofDigits]
  exact map_of_compared (read_eq width buffer) _

/-- Reading a number with its bytes the other way round. -/
theorem readUnsignedReversed_eq (width : Nat) (buffer : Buffer) :
    readUnsignedReversed width buffer =
      if buffer.length < width then (.error (.read width buffer.length), buffer)
      else (.ok (Nat.ofDigits 256 ((buffer.toBytes.take width).map UInt8.toNat)),
        buffer.dropped width) := by
  rw [← Bytes.littleEndian_eq_ofDigits]
  exact map_of_compared (read_eq width buffer) _

theorem readSigned_eq (width : Nat) (buffer : Buffer) :
    readSigned width buffer =
      if buffer.length < width then (.error (.read width buffer.length), buffer)
      else (.ok (BitVec.ofNat (8 * width)
          (Nat.ofDigits 256 ((buffer.toBytes.take width).reverse.map UInt8.toNat))).toInt,
        buffer.dropped width) := by
  rw [← Bytes.bmod_eq_toInt]
  exact map_of_compared (readUnsigned_eq width buffer) _

theorem advance_of_le (h : count ≤ buffer.length) :
    advance count buffer = (.ok (), buffer.dropped count) := by
  rw [advance_eq, if_neg (Nat.not_lt.2 h)]

theorem read_of_le (h : count ≤ buffer.length) :
    read count buffer = (.ok (buffer.toBytes.take count), buffer.dropped count) := by
  rw [read_eq, if_neg (Nat.not_lt.2 h)]

/-- Nothing is read past the end. -/
theorem le_length_of_read {bytes : Bytes} {left : Buffer}
    (h : read count buffer = (.ok bytes, left)) : count ≤ buffer.length := by
  by_contra hlt
  rw [read_eq, if_pos (Nat.not_le.1 hlt)] at h
  cases h

/-! ### Reading fragment by fragment -/

/-- The first fragment is not empty while bytes are left. -/
theorem Sound.chunk_ne_nil (h : buffer.Sound) (hleft : 0 < buffer.length) : buffer.chunk ≠ [] := by
  rcases hfragments : buffer.fragments with - | ⟨fragment, rest⟩
  · rw [h.length_eq, hfragments] at hleft
    cases hleft
  · have hchunk : buffer.chunk = fragment := by rw [chunk, hfragments, List.headD_cons]
    rw [hchunk]
    exact h.nonempty fragment (hfragments ▸ List.mem_cons_self)

/-- What is at the front of a buffer is at the front of its content. -/
theorem chunk_prefix (buffer : Buffer) : buffer.chunk <+: buffer.toBytes := by
  obtain ⟨- | ⟨fragment, rest⟩, length⟩ := buffer
  · exact List.nil_prefix
  · exact List.prefix_append _ _

/-- Copying `count` bytes while looking at nothing but the first fragment. -/
inductive Copies : Buffer → Nat → Bytes → Buffer → Prop
  /-- Nothing more is wanted. -/
  | done (buffer : Buffer) : Copies buffer 0 [] buffer
  /-- Some bytes of the first fragment are copied and skipped. -/
  | chunk {buffer next left : Buffer} {first count : Nat} {bytes : Bytes} (hpositive : 0 < first)
      (hfirst : first ≤ buffer.chunk.length) (hadvance : advance first buffer = (.ok (), next))
      (rest : Copies next count bytes left) :
      Copies buffer (first + count) (buffer.chunk.take first ++ bytes) left

/-- However the copying is cut, it is a read. -/
theorem Copies.read_eq {bytes : Bytes} {left : Buffer} (h : Copies buffer count bytes left)
    (hsound : buffer.Sound) : read count buffer = (.ok bytes, left) := by
  induction h with
  | done buffer => rw [read_of_le (Nat.zero_le _), dropped_zero, List.take_zero]
  | @chunk buffer next left first count bytes hpositive hfirst hadvance rest ih =>
    have hwithin : first ≤ buffer.length := by
      rw [← hsound.length_toBytes]
      exact hfirst.trans buffer.chunk_prefix.length_le
    rw [advance_of_le hwithin] at hadvance
    obtain rfl : buffer.dropped first = next := congrArg Prod.snd hadvance
    have hrest := ih (hsound.dropped first)
    have hcount : count ≤ (buffer.dropped first).length := le_length_of_read hrest
    rw [read_of_le hcount, toBytes_dropped, dropped_dropped] at hrest
    obtain ⟨hbytes, hleft⟩ := Prod.mk.inj hrest
    obtain rfl := Except.ok.inj hbytes
    have htotal : first + count ≤ buffer.length := by
      have hlength : (buffer.dropped first).length = buffer.length - first := rfl
      omega
    -- What was copied is a front of the content, and the rest was read behind it.
    obtain ⟨more, hmore⟩ := buffer.chunk_prefix
    rw [read_of_le htotal, List.take_add, ← hleft, ← hmore, List.take_append_of_le_length hfirst]

/-- Copying comes to an end when there is enough to copy. -/
theorem Sound.exists_copies (h : buffer.Sound) (hcount : count ≤ buffer.length) :
    ∃ bytes left, Copies buffer count bytes left := by
  -- Every step copies at least one byte, since the first fragment is not empty.
  induction count using Nat.strong_induction_on generalizing buffer with
  | _ count ih =>
    rcases Nat.eq_zero_or_pos count with rfl | hpositive
    · exact ⟨[], buffer, .done buffer⟩
    · have hchunk := List.length_pos_iff.2 (h.chunk_ne_nil (Nat.lt_of_lt_of_le hpositive hcount))
      obtain ⟨first, hfirst⟩ : ∃ first, first = min count buffer.chunk.length := ⟨_, rfl⟩
      have hadvance : advance first buffer = (.ok (), buffer.dropped first) :=
        advance_of_le (by omega)
      have hrest : count - first ≤ (buffer.dropped first).length := Nat.sub_le_sub_right hcount first
      obtain ⟨bytes, left, hcopies⟩ := ih (count - first) (by omega) (h.dropped first) hrest
      have hwhole := hcopies.chunk (by omega) (by omega) hadvance
      rw [Nat.add_sub_cancel' (by omega)] at hwhole
      exact ⟨_, left, hwhole⟩

/-- **Copying fragment by fragment is reading**, and it comes to an end exactly when a read succeeds. -/
theorem Sound.copies_iff (h : buffer.Sound) {bytes : Bytes} {left : Buffer} :
    Copies buffer count bytes left ↔ read count buffer = (.ok bytes, left) := by
  refine ⟨fun hcopies ↦ hcopies.read_eq h, fun hread ↦ ?_⟩
  obtain ⟨bytes', left', hcopies⟩ := h.exists_copies (le_length_of_read hread)
  obtain ⟨hbytes, rfl⟩ := Prod.mk.inj ((hcopies.read_eq h).symm.trans hread)
  obtain rfl := Except.ok.inj hbytes
  exact hcopies

end Buffer

end Conduit
