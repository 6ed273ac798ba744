import Conduit.Bytes

/-!
# UTF-8

A byte string is cut from the left into pieces: characters, malformed parts, and possibly an
unfinished sequence at the end. A malformed part is as long as it can be while it still begins some
character, and at least one byte. Strict decoding reports the first piece that is no character, and
lenient decoding puts the replacement character in its place.
-/

namespace Conduit.Utf8

/-- A piece of a byte string. -/
inductive Piece where
  /-- The encoding of a character. -/
  | char (c : Char)
  /-- Bytes that begin no character. -/
  | malformed (length : Nat)
  /-- Bytes at the end that begin a character without completing it. -/
  | unfinished (length : Nat)
  deriving DecidableEq, Repr

/-- Where the cutting stands between two bytes. -/
inductive State where
  /-- Before a new piece. -/
  | start
  /-- Inside a sequence of which `taken` bytes are read and `missing` are to come; the next one has
  to lie between `low` and `high`, and `code` collects the bits. -/
  | within (missing : Nat) (low high : UInt8) (code taken : Nat)
  deriving DecidableEq, Repr

/-- Starts a new piece with a byte. -/
def State.lead (b : UInt8) : List Piece × State :=
  let n := b.toNat
  if n < 0x80 then ([.char (Char.ofNat n)], .start)
  else if n < 0xc2 then ([.malformed 1], .start)
  else if n < 0xe0 then ([], .within 1 0x80 0xbf (n - 0xc0) 1)
  else if n = 0xe0 then ([], .within 2 0xa0 0xbf (n - 0xe0) 1)
  else if n = 0xed then ([], .within 2 0x80 0x9f (n - 0xe0) 1)
  else if n < 0xf0 then ([], .within 2 0x80 0xbf (n - 0xe0) 1)
  else if n = 0xf0 then ([], .within 3 0x90 0xbf (n - 0xf0) 1)
  else if n < 0xf4 then ([], .within 3 0x80 0xbf (n - 0xf0) 1)
  else if n = 0xf4 then ([], .within 3 0x80 0x8f (n - 0xf0) 1)
  else ([.malformed 1], .start)

/-- Reads one byte. A byte that does not continue the sequence ends it as malformed and starts a new
piece. -/
def State.step : State → UInt8 → List Piece × State
  | .start, b => lead b
  | .within missing low high code taken, b =>
    if low ≤ b ∧ b ≤ high then
      let code := 64 * code + (b.toNat - 0x80)
      if missing ≤ 1 then ([.char (Char.ofNat code)], .start)
      else ([], .within (missing - 1) 0x80 0xbf code (taken + 1))
    else
      let (pieces, state) := lead b
      (.malformed taken :: pieces, state)

/-- The pieces of a byte string, when reading begins in a given state. -/
def piecesFrom : State → Bytes → List Piece
  | .start, [] => []
  | .within _ _ _ _ taken, [] => [.unfinished taken]
  | state, b :: bytes =>
    let (pieces, state) := state.step b
    pieces ++ piecesFrom state bytes

/-- The pieces of a byte string. -/
def pieces (bytes : Bytes) : List Piece :=
  piecesFrom .start bytes

/-- The encoding of characters. -/
def encode (chars : List Char) : Bytes :=
  chars.flatMap String.utf8EncodeChar

/-- The encoding of a text. -/
def ofText (text : String) : Bytes :=
  encode text.toList

/-- Where a byte string stops being UTF-8. -/
structure DecodeError where
  /-- The number of bytes before the first piece that is no character. -/
  index : Nat
  /-- The length of that piece, if it is malformed and not just unfinished. -/
  length? : Option Nat
  deriving DecidableEq, Repr

/-- The message of a decoding error. -/
def DecodeError.message (error : DecodeError) : String :=
  match error.length? with
  | some length =>
    "invalid utf-8 sequence of " ++ toString length ++ " bytes from index " ++
      toString error.index
  | none => "incomplete utf-8 byte sequence from index " ++ toString error.index

/-- The characters of pieces, or the first piece that is none; `index` bytes stand before them. -/
def chars? (index : Nat) : List Piece → Except DecodeError (List Char)
  | [] => .ok []
  | .char c :: rest => (c :: ·) <$> chars? (index + c.utf8Size) rest
  | .malformed length :: _ => .error ⟨index, some length⟩
  | .unfinished _ :: _ => .error ⟨index, none⟩

/-- Strict decoding. -/
def decode (bytes : Bytes) : Except DecodeError String :=
  String.ofList <$> chars? 0 (pieces bytes)

/-- The character that stands for a piece in lenient decoding. -/
def Piece.shown : Piece → Char
  | .char c => c
  | _ => '\ufffd'

/-- Lenient decoding. -/
def decodeLossy (bytes : Bytes) : String :=
  String.ofList ((pieces bytes).map Piece.shown)

end Conduit.Utf8
