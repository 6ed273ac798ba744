import Conduit.Session.Frame
import Conduit.Shared

/-!
# Attribute values

The kinds of values that attributes may have. Those that are used here have kinds of their own; there
is a kind for every other type as well, whose values are known by reference. A value at rest carries its
kind, and is taken out again only as a value of that kind.
-/

namespace Conduit

/-- Names a type of values that is defined elsewhere. -/
structure TypeRef where
  index : Nat
  /-- The name of the type in messages, which other types may have as well. -/
  name : String
  deriving DecidableEq, Repr, Inhabited

/-- Names a value of such a type. -/
structure ObjectRef where
  index : Nat
  deriving DecidableEq, Repr, Inhabited

/-- The kinds of values. -/
inductive ValueKind where
  | unsigned64
  | signed32
  | boolean
  | text
  | bytes
  | frame
  | session
  /-- The mark under which a type of cached objects is registered; its only value says nothing. -/
  | cacheSlot (objects : ValueKind)
  /-- The values of a type that is defined elsewhere. -/
  | foreign (type : TypeRef)
  deriving DecidableEq, Repr, Inhabited

namespace ValueKind

/-- The values of a kind. -/
abbrev Carrier : ValueKind → Type
  | unsigned64 => UInt64
  | signed32 => Int32
  | boolean => Bool
  | text => String
  | bytes => Bytes
  | frame => Frame
  | session => SessionRef
  | cacheSlot _ => Unit
  | foreign _ => ObjectRef

/-- The name of a kind in messages. -/
def name : ValueKind → String
  | unsigned64 => "u64"
  | signed32 => "i32"
  | boolean => "bool"
  | text => "alloc::string::String"
  | bytes => "alloc::vec::Vec<u8>"
  | frame => "spindle_core::session::frame::Frame"
  | session => "alloc::sync::Arc<spindle_core::session::Session>"
  | cacheSlot objects => "spindle_core::worker::cache::CacheSlot<" ++ objects.name ++ ">"
  | foreign type => type.name

end ValueKind

/-- A value at rest. -/
structure StoredValue where
  /-- Its kind. -/
  kind : ValueKind
  /-- The value. -/
  value : kind.Carrier

namespace StoredValue

/-- The value, if it is of the given kind. -/
def as? (kind : ValueKind) (stored : StoredValue) : Option kind.Carrier :=
  if h : stored.kind = kind then some (h ▸ stored.value) else none

@[simp] theorem as?_mk (kind : ValueKind) (value : kind.Carrier) :
    (StoredValue.mk kind value).as? kind = some value := by
  simp [as?]

/-- A value of one kind is none of another. -/
theorem as?_eq_none {kind : ValueKind} {stored : StoredValue} (h : stored.kind ≠ kind) :
    stored.as? kind = none := by
  simp [as?, h]

end StoredValue

end Conduit
