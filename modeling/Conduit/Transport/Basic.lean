import Conduit.Bytes
import Conduit.Transport.Error
import Conduit.Text.Inspect

/-!
# The seam to the transport

A transport delivers read events of a connection one by one to an interceptor, which answers each
with flags: whether the unit it is collecting is complete, incomplete, and whether the transport is
to arm itself for one more fragment.
-/

namespace Conduit

/-- The number of a connection. -/
structure ConnectionId where
  /-- The number itself. -/
  raw : Nat
  deriving DecidableEq, Ord, Repr, Inhabited

namespace ConnectionId

/-- The text of a connection number in messages. -/
def display (id : ConnectionId) : String :=
  "conn-" ++ toString id.raw

/-- The inspection text of a connection number. -/
def inspect (id : ConnectionId) : String :=
  Text.inspectWrapped "ConnectionId" (toString id.raw)

end ConnectionId

/-- What a transport delivers to an interceptor. -/
inductive ReadEvent where
  /-- A piece of data, possibly without bytes. -/
  | fragment (bytes : Bytes)
  /-- The peer closed its side, or reading ended. -/
  | endOfStream
  /-- Reading failed. -/
  | failed (error : TransportError)
  deriving DecidableEq, Repr, Inhabited

/-- The answer of an interceptor: a set of flags. -/
structure Intercept where
  /-- The flags as bits. -/
  bits : UInt8
  deriving DecidableEq, Repr, Inhabited

namespace Intercept

/-- No opinion: the transport goes on as it would. -/
def default : Intercept := ⟨0⟩

/-- The unit is complete. -/
def completed : Intercept := ⟨1⟩

/-- The unit needs more data. -/
def incomplete : Intercept := ⟨2⟩

/-- The transport is to reset the read and arm itself for the next fragment. -/
def reset : Intercept := ⟨4⟩

/-- The flags of either answer. -/
def union (f g : Intercept) : Intercept :=
  ⟨f.bits ||| g.bits⟩

instance : OrOp Intercept := ⟨union⟩

/-- Whether every flag of `g` is among those of `f`. -/
def contains (f g : Intercept) : Bool :=
  f.bits &&& g.bits == g.bits

/-- Whether the transport should deliver a further fragment. -/
def wantsMore (f : Intercept) : Bool :=
  f.contains incomplete && !f.contains completed

/-- The named flags, in the order in which they are shown. -/
def named : List (String × Intercept) :=
  [("COMPLETED", completed), ("INCOMPLETE", incomplete), ("RESET", reset)]

/-- The inspection text of a set of flags. -/
def inspect (f : Intercept) : String :=
  Text.inspectWrapped "Intercept" <|
    if f.bits = 0 then "DEFAULT"
    else " | ".intercalate ((named.filter fun n ↦ f.contains n.2).map Prod.fst)

end Intercept

end Conduit
