import Conduit.Text.Utf8

/-!
# Frames

The decoded units of a message protocol. A close frame carries a code, two bytes with the more
significant one first, and a reason in UTF-8.
-/

namespace Conduit

/-- The kinds of frames. -/
inductive FrameKind where
  | text | binary | continuation | ping | pong | close
  deriving DecidableEq, Repr, Inhabited

/-- All kinds of frames. -/
def FrameKind.all : List FrameKind :=
  [text, binary, continuation, ping, pong, close]

/-- The name of a kind of frame. -/
def FrameKind.name : FrameKind → String
  | text => "Text"
  | binary => "Binary"
  | continuation => "Continuation"
  | ping => "Ping"
  | pong => "Pong"
  | close => "Close"

/-- A close code and the reason that comes with it. -/
structure CloseReason where
  /-- The code. -/
  code : UInt16
  /-- The reason, possibly empty. -/
  reason : String
  deriving DecidableEq, Repr, Inhabited

namespace CloseReason

/-- The ordinary end of a session. -/
def normal : CloseReason :=
  ⟨1000, ""⟩

/-- What listeners are told when the connection ended without a close frame. -/
def abnormal : CloseReason :=
  ⟨1006, ""⟩

end CloseReason

/-- A frame. -/
structure Frame where
  /-- The kind. -/
  kind : FrameKind
  /-- The bytes it carries. -/
  payload : Bytes
  /-- Whether it is the last one of its message. -/
  final : Bool
  deriving DecidableEq, Repr, Inhabited

namespace Frame

/-- A message of text in one frame. -/
def text (s : String) : Frame :=
  ⟨.text, Utf8.ofText s, true⟩

/-- A message of bytes in one frame. -/
def binary (payload : Bytes) : Frame :=
  ⟨.binary, payload, true⟩

/-- A further piece of a message. -/
def continuation (payload : Bytes) (last : Bool) : Frame :=
  ⟨.continuation, payload, last⟩

/-- A ping. -/
def ping (payload : Bytes) : Frame :=
  ⟨.ping, payload, true⟩

/-- The answer to a ping. -/
def pong (payload : Bytes) : Frame :=
  ⟨.pong, payload, true⟩

/-- A close frame. -/
def close (c : CloseReason) : Frame :=
  ⟨.close, UInt8.ofNat (c.code.toNat / 256) :: UInt8.ofNat (c.code.toNat % 256) ::
    Utf8.ofText c.reason, true⟩

/-- The payload read as text. -/
def asText (frame : Frame) : Except Utf8.DecodeError String :=
  Utf8.decode frame.payload

/-- What a close frame says; a payload too short for a code stands for an ordinary end. Other frames
say nothing. -/
def asClose? (frame : Frame) : Option CloseReason :=
  if frame.kind = .close then
    match frame.payload with
    | high :: low :: reason =>
      some ⟨UInt16.ofNat (256 * high.toNat + low.toNat), Utf8.decodeLossy reason⟩
    | _ => some .normal
  else none

end Frame

end Conduit
