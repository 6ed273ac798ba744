import Conduit.Proofs.Text.Utf8
import Conduit.Session.Frame

/-!
# What close frames say

A close frame is a code and a reason on the wire. What is written into one is read out of it, and what is
read out of one, whatever its bytes, survives being written again. The bytes themselves survive exactly
when the reason is UTF-8 (`Frame.closeReadings_frame`).
-/

namespace Conduit.Frame

/-! ### Codes -/

/-- The two bytes of a code, the more significant one first. -/
theorem ofNat_closeBytes (code : UInt16) :
    UInt16.ofNat (256 * (UInt8.ofNat (code.toNat / 256)).toNat +
      (UInt8.ofNat (code.toNat % 256)).toNat) = code := by
  have hcode : code.toNat < 65536 := code.toNat_lt
  have hhigh : (UInt8.ofNat (code.toNat / 256)).toNat = code.toNat / 256 :=
    UInt8.toNat_ofNat_of_lt' (Nat.div_lt_of_lt_mul hcode)
  have hlow : (UInt8.ofNat (code.toNat % 256)).toNat = code.toNat % 256 :=
    UInt8.toNat_ofNat_of_lt' (Nat.mod_lt _ (by decide))
  rw [hhigh, hlow, Nat.div_add_mod, UInt16.ofNat_toNat]

/-- A close frame with the code that two bytes stand for begins with these bytes. -/
theorem payload_close (high low : UInt8) (reason : String) :
    (close ⟨UInt16.ofNat (256 * high.toNat + low.toNat), reason⟩).payload =
      high :: low :: Utf8.ofText reason := by
  have hhigh : high.toNat < 256 := high.toNat_lt
  have hlow : low.toNat < 256 := low.toNat_lt
  have hcode : (UInt16.ofNat (256 * high.toNat + low.toNat)).toNat = 256 * high.toNat + low.toNat :=
    UInt16.toNat_ofNat_of_lt' (show _ < 65536 by omega)
  have hdiv : (256 * high.toNat + low.toNat) / 256 = high.toNat := by omega
  have hmod : (256 * high.toNat + low.toNat) % 256 = low.toNat := by omega
  simp only [close, hcode, hdiv, hmod, UInt8.ofNat_toNat]

/-! ### Readings -/

/-- What a close frame is made of is read from it again. -/
theorem asClose?_close (c : CloseReason) : (close c).asClose? = some c := by
  show some (CloseReason.mk _ _) = some c
  rw [ofNat_closeBytes, Utf8.decodeLossy_ofText]

/-- Only a close frame is read as one. -/
theorem asClose?_of_kind_ne {frame : Frame} (h : frame.kind ≠ .close) : frame.asClose? = none :=
  if_neg h

/-- A payload without room for a code says that all is well. -/
theorem asClose?_of_short {frame : Frame} (h : frame.kind = .close) (hshort : frame.payload.length < 2) :
    frame.asClose? = some ⟨1000, ""⟩ := by
  rw [asClose?, if_pos h]
  rcases hpayload : frame.payload with - | ⟨high, - | ⟨low, reason⟩⟩
  · rfl
  · rfl
  · rw [hpayload] at hshort
    exact absurd hshort (by simp)

/-- What is read of a frame that is long enough has the bytes of the frame exactly when its reason is
UTF-8. -/
theorem exists_asClose?_of_long {frame : Frame} (h : frame.kind = .close)
    (hlong : 2 ≤ frame.payload.length) :
    ∃ c, frame.asClose? = some c ∧
      ((close c).payload = frame.payload ↔ (frame.payload.drop 2).toByteArray.IsValidUTF8) := by
  rw [asClose?, if_pos h]
  rcases hpayload : frame.payload with - | ⟨high, - | ⟨low, reason⟩⟩
  · rw [hpayload] at hlong
    contradiction
  · rw [hpayload] at hlong
    exact absurd hlong (by simp)
  · refine ⟨_, rfl, ?_⟩
    rw [payload_close, List.cons_inj_right, List.cons_inj_right, Utf8.ofText_decodeLossy_eq_iff]
    rfl

/-! ### The main result -/

/-- What is written as a close frame and what is read of frames, by way of one frame and one reason. -/
structure CloseReadings (frame : Frame) (c : CloseReason) : Prop where
  /-- What is written is read. -/
  written : (close c).asClose? = some c
  /-- Frames of other kinds say nothing. -/
  other : frame.kind ≠ .close → frame.asClose? = none
  /-- A close frame without a code stands for an ordinary end. -/
  short : frame.kind = .close → frame.payload.length < 2 → frame.asClose? = some ⟨1000, ""⟩
  /-- Any other one says something, which has the bytes of the frame exactly when the reason is UTF-8. -/
  long : frame.kind = .close → 2 ≤ frame.payload.length → ∃ c, frame.asClose? = some c ∧
    ((close c).payload = frame.payload ↔ (frame.payload.drop 2).toByteArray.IsValidUTF8)
  /-- What a close frame says is still said when it is written again. -/
  again : frame.kind = .close → ∃ c, frame.asClose? = some c ∧ (close c).asClose? = frame.asClose?

/-- **Close frames are read as they are written.** -/
theorem closeReadings_frame (frame : Frame) (c : CloseReason) : CloseReadings frame c where
  written := asClose?_close c
  other := asClose?_of_kind_ne
  short := asClose?_of_short
  long := exists_asClose?_of_long
  again h := by
    obtain ⟨c, hc⟩ : ∃ c, frame.asClose? = some c := by
      rcases Nat.lt_or_ge frame.payload.length 2 with hshort | hlong
      · exact ⟨_, asClose?_of_short h hshort⟩
      · obtain ⟨c, hc, -⟩ := exists_asClose?_of_long h hlong
        exact ⟨c, hc⟩
    exact ⟨c, hc, (asClose?_close c).trans hc.symm⟩

/-- A reason that breaks off inside of a character is read with the replacement character, and what is
written then has other bytes. -/
example : (Frame.mk .close [0x0f, 0xa1, 0x62, 0xe2, 0x82] true).asClose? = some ⟨4001, "b\ufffd"⟩ ∧
    (close ⟨4001, "b\ufffd"⟩).payload = [0x0f, 0xa1, 0x62, 0xef, 0xbf, 0xbd] := by
  decide

end Conduit.Frame
