import Conduit.Text.Utf8
import Mathlib.Data.List.Basic

/-!
# Encoding and decoding UTF-8

What was encoded is cut into the characters that it was made of, and nothing else
(`Utf8.pieces_encode`). So lenient decoding gives every text back, and it can be undone exactly for the
byte strings that are UTF-8 (`Utf8.ofText_decodeLossy_eq_iff`); on any other one it is not the identity
once more, but decoding what it left gives the same text again.

A character is written as a leading byte and up to three bytes of six bits each. There is one lemma for
each kind of leading byte, which says what it makes of the bytes that may follow, and one for a byte that
follows.
-/

namespace Conduit.Utf8

/-! ### Leading bytes -/

theorem piecesFrom_cons (state : State) (b : UInt8) (bytes : Bytes) :
    piecesFrom state (b :: bytes) = (state.step b).1 ++ piecesFrom (state.step b).2 bytes := by
  cases state <;> rfl

/-- After a leading byte, the rest is read in its state. -/
theorem piecesFrom_lead {b : UInt8} {state : State} (h : State.lead b = ([], state)) (bytes : Bytes) :
    piecesFrom .start (b :: bytes) = piecesFrom state bytes := by
  rw [piecesFrom_cons, State.step, h, List.nil_append]

/-- Below 128 a byte is a character. -/
theorem lead_one : ∀ n < 0x80, State.lead (UInt8.ofNat n) = ([.char (Char.ofNat n)], .start) := by
  decide

/-- One byte is to follow. The numbers 0 and 1 are left out, as one byte does for such characters. -/
theorem lead_two : ∀ n < 32, 2 ≤ n →
    State.lead (UInt8.ofNat (n + 0xc0)) = ([], .within 1 0x80 0xbf n 1) := by
  decide

/-- Of two bytes to follow, the first is not so small that two bytes would do for the character, and not
one of those that would make it a surrogate. -/
theorem lead_three : ∀ n < 16, State.lead (UInt8.ofNat (n + 0xe0)) =
    ([], .within 2 (if n = 0 then 0xa0 else 0x80) (if n = 13 then 0x9f else 0xbf) n 1) := by
  decide

/-- Of three bytes to follow, the first is not so small that three bytes would do for the character, and
not so large that there is no such character. -/
theorem lead_four : ∀ n < 5, State.lead (UInt8.ofNat (n + 0xf0)) =
    ([], .within 3 (if n = 0 then 0x90 else 0x80) (if n = 4 then 0x8f else 0xbf) n 1) := by
  decide

/-! ### Bytes that follow -/

/-- A byte that follows in a sequence holds six bits. -/
def tailByte (bits : Nat) : UInt8 :=
  UInt8.ofNat (bits + 0x80)

section Tail

variable {missing code taken bits : Nat} {low high : UInt8}

theorem toNat_tailByte (h : bits < 64) : (tailByte bits).toNat = bits + 0x80 := by
  have hsize : bits + 0x80 < UInt8.size := Nat.lt_trans (Nat.add_lt_add_right h 0x80) (by decide)
  exact UInt8.toNat_ofNat_of_lt' hsize

/-- A byte that follows adds its six bits, if it is in the range that is allowed there. -/
theorem step_tailByte (h : bits < 64) (hlow : low.toNat ≤ bits + 0x80)
    (hhigh : bits + 0x80 ≤ high.toNat) :
    State.step (.within missing low high code taken) (tailByte bits) =
      if missing ≤ 1 then ([.char (Char.ofNat (64 * code + bits))], .start)
      else ([], .within (missing - 1) 0x80 0xbf (64 * code + bits) (taken + 1)) := by
  have hwithin : low ≤ tailByte bits ∧ tailByte bits ≤ high := by
    rw [UInt8.le_iff_toNat_le, UInt8.le_iff_toNat_le, toNat_tailByte h]
    exact ⟨hlow, hhigh⟩
  rw [State.step, if_pos hwithin, toNat_tailByte h, Nat.add_sub_cancel]

/-- The first byte that follows, when more are to come. -/
theorem piecesFrom_tailByte (h : bits < 64) (hlow : low.toNat ≤ bits + 0x80)
    (hhigh : bits + 0x80 ≤ high.toNat) (bytes : Bytes) :
    piecesFrom (.within (missing + 2) low high code taken) (tailByte bits :: bytes) =
      piecesFrom (.within (missing + 1) 0x80 0xbf (64 * code + bits) (taken + 1)) bytes := by
  rw [piecesFrom_cons, step_tailByte h hlow hhigh, if_neg (by omega), List.nil_append]
  rfl

/-- The last byte completes the character. -/
theorem piecesFrom_lastByte (h : bits < 64) (hlow : low.toNat ≤ bits + 0x80)
    (hhigh : bits + 0x80 ≤ high.toNat) (bytes : Bytes) :
    piecesFrom (.within 1 low high code taken) (tailByte bits :: bytes) =
      .char (Char.ofNat (64 * code + bits)) :: piecesFrom .start bytes := by
  rw [piecesFrom_cons, step_tailByte h hlow hhigh, if_pos (Nat.le_refl 1), List.singleton_append]

theorem le_tailByte (bits : Nat) : (0x80 : UInt8).toNat ≤ bits + 0x80 :=
  Nat.le_add_left ..

theorem tailByte_le (h : bits < 64) : bits + 0x80 ≤ (0xbf : UInt8).toNat :=
  Nat.add_le_add_right (Nat.le_of_lt_succ h) 0x80

end Tail

/-! ### Characters -/

/-- The bytes of a character, as many as the bits of its number need. -/
theorem utf8EncodeChar_eq (c : Char) :
    String.utf8EncodeChar c =
      if c.toNat ≤ 0x7f then [UInt8.ofNat c.toNat]
      else if c.toNat ≤ 0x7ff then [UInt8.ofNat (c.toNat / 64 % 32 + 0xc0), tailByte (c.toNat % 64)]
      else if c.toNat ≤ 0xffff then
        [UInt8.ofNat (c.toNat / 4096 % 16 + 0xe0), tailByte (c.toNat / 64 % 64),
          tailByte (c.toNat % 64)]
      else
        [UInt8.ofNat (c.toNat / 262144 % 8 + 0xf0), tailByte (c.toNat / 4096 % 64),
          tailByte (c.toNat / 64 % 64), tailByte (c.toNat % 64)] :=
  rfl

section Char

variable {c : Char}

/-- The second byte of three is in its range, as the character is a scalar value that needs three bytes.
-/
theorem second_of_three (h : 0x7ff < c.toNat) (h' : c.toNat ≤ 0xffff) :
    (if c.toNat / 4096 % 16 = 0 then 0xa0 else 0x80 : UInt8).toNat ≤ c.toNat / 64 % 64 + 0x80 ∧
      c.toNat / 64 % 64 + 0x80 ≤ (if c.toNat / 4096 % 16 = 13 then 0x9f else 0xbf : UInt8).toNat := by
  have hscalar : c.toNat < 0xd800 ∨ 0xdfff < c.toNat ∧ c.toNat < 0x110000 := c.valid
  constructor
  · split_ifs
    · show 0xa0 ≤ _
      omega
    · exact le_tailByte _
  · split_ifs
    · show _ ≤ 0x9f
      omega
    · exact tailByte_le (by omega)

/-- The second byte of four is in its range, as the character is a scalar value that needs four bytes. -/
theorem second_of_four (h : 0xffff < c.toNat) :
    (if c.toNat / 262144 % 8 = 0 then 0x90 else 0x80 : UInt8).toNat ≤ c.toNat / 4096 % 64 + 0x80 ∧
      c.toNat / 4096 % 64 + 0x80 ≤ (if c.toNat / 262144 % 8 = 4 then 0x8f else 0xbf : UInt8).toNat := by
  have hscalar : c.toNat < 0xd800 ∨ 0xdfff < c.toNat ∧ c.toNat < 0x110000 := c.valid
  constructor
  · split_ifs
    · show 0x90 ≤ _
      omega
    · exact le_tailByte _
  · split_ifs
    · show _ ≤ 0x8f
      omega
    · exact tailByte_le (by omega)

end Char

/-- What encodes a character is read as that character. -/
theorem piecesFrom_utf8EncodeChar (c : Char) (bytes : Bytes) :
    piecesFrom .start (String.utf8EncodeChar c ++ bytes) = .char c :: piecesFrom .start bytes := by
  have hscalar : c.toNat < 0xd800 ∨ 0xdfff < c.toNat ∧ c.toNat < 0x110000 := c.valid
  have hbits : ∀ n, n % 64 < 64 := fun n ↦ Nat.mod_lt n (by decide)
  -- The bits of the bytes make up the number of the character again.
  have hcode : ∀ n, n = c.toNat →
      .char (Char.ofNat n) :: piecesFrom .start bytes = .char c :: piecesFrom .start bytes := by
    rintro n rfl
    rw [Char.ofNat_toNat]
  rw [utf8EncodeChar_eq]
  split_ifs with hone htwo hthree
  · rw [List.singleton_append, piecesFrom_cons, State.step, lead_one _ (by omega)]
    exact hcode _ rfl
  · rw [List.cons_append, List.singleton_append, piecesFrom_lead (lead_two _ (by omega) (by omega)),
      piecesFrom_lastByte (hbits _) (le_tailByte _) (tailByte_le (hbits _))]
    exact hcode _ (by omega)
  · obtain ⟨hlow, hhigh⟩ := second_of_three (c := c) (by omega) (by omega)
    rw [List.cons_append, List.cons_append, List.singleton_append,
      piecesFrom_lead (lead_three _ (by omega)), piecesFrom_tailByte (hbits _) hlow hhigh,
      piecesFrom_lastByte (hbits _) (le_tailByte _) (tailByte_le (hbits _))]
    exact hcode _ (by omega)
  · obtain ⟨hlow, hhigh⟩ := second_of_four (c := c) (by omega)
    rw [List.cons_append, List.cons_append, List.cons_append, List.singleton_append,
      piecesFrom_lead (lead_four _ (by omega)), piecesFrom_tailByte (hbits _) hlow hhigh,
      piecesFrom_tailByte (hbits _) (le_tailByte _) (tailByte_le (hbits _)),
      piecesFrom_lastByte (hbits _) (le_tailByte _) (tailByte_le (hbits _))]
    exact hcode _ (by omega)

/-! ### Texts -/

/-- What encodes characters is cut into these characters. -/
theorem pieces_encode (chars : List Char) : pieces (encode chars) = chars.map .char := by
  induction chars with
  | nil => rfl
  | cons c chars ih =>
    show piecesFrom .start (String.utf8EncodeChar c ++ encode chars) = _
    rw [piecesFrom_utf8EncodeChar, List.map_cons, ← ih]
    rfl

/-- Lenient decoding gives back what was encoded. -/
theorem decodeLossy_ofText (text : String) : decodeLossy (ofText text) = text := by
  have hshown : Piece.shown ∘ Piece.char = id := rfl
  rw [decodeLossy, ofText, pieces_encode, List.map_map, hshown, List.map_id, String.ofList_toList]

/-- The byte strings that are UTF-8 are those that encode a text. -/
theorem isValidUTF8_iff {bytes : Bytes} :
    bytes.toByteArray.IsValidUTF8 ↔ ∃ text, bytes = ofText text := by
  constructor
  · rintro ⟨chars, hchars⟩
    have hdata : bytes.toByteArray.data.toList = (encode chars).toByteArray.data.toList :=
      congrArg (fun array ↦ array.data.toList) hchars
    rw [List.data_toByteArray, List.data_toByteArray] at hdata
    refine ⟨String.ofList chars, ?_⟩
    rw [ofText, String.toList_ofList]
    exact hdata
  · rintro ⟨text, rfl⟩
    exact ⟨text.toList, rfl⟩

/-- Lenient decoding loses nothing exactly when the byte string is UTF-8. -/
theorem ofText_decodeLossy_eq_iff {bytes : Bytes} :
    ofText (decodeLossy bytes) = bytes ↔ bytes.toByteArray.IsValidUTF8 := by
  rw [isValidUTF8_iff]
  constructor
  · intro h
    exact ⟨_, h.symm⟩
  · rintro ⟨text, rfl⟩
    rw [decodeLossy_ofText]

end Conduit.Utf8
