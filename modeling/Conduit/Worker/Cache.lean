import Conduit.Attribute.Registry

/-!
# Object caches

A cache keeps used objects for later. Each type of objects is registered under a name, which gives
it an index; a cache holds one list of objects per index, of bounded length, and hands out the object
put in last.
-/

namespace Conduit

/-- A registered type of objects. -/
structure CacheKey (kind : ValueKind) where
  /-- The attribute that stands for the type in its registry. -/
  slot : Attribute (.cacheSlot kind)
  deriving Inhabited

namespace CacheKey

variable {kind : ValueKind}

/-- Registers a type of objects under a name. -/
def register (kind : ValueKind) (name : String) :
    StateM Registry (Except AttributeError (CacheKey kind)) :=
  (·.map CacheKey.mk) <$> Registry.declare name .absent

/-- The index of the type. -/
def index (key : CacheKey kind) : Nat :=
  key.slot.index

/-- The name of the type. -/
def name (key : CacheKey kind) : String :=
  key.slot.name

/-- The inspection text of a key. -/
def inspect (key : CacheKey kind) : String :=
  Text.inspectRecord "CachedType"
    [("index", toString key.index), ("name", Text.quote key.name)]

end CacheKey

/-- The cached objects of one type, the last one first. -/
structure CacheList where
  /-- Their kind. -/
  kind : ValueKind
  /-- The objects. -/
  objects : List kind.Carrier

/-- Cached objects by type. -/
structure ObjectCache where
  /-- The number of objects that are kept of one type. -/
  maxPerType : Nat
  /-- The lists by index; a type has none until its first object is put in. -/
  lists : List (Option CacheList)
  deriving Inhabited

namespace ObjectCache

variable {kind : ValueKind}

/-- A cache without objects. -/
def new (maxPerType : Nat) : ObjectCache :=
  ⟨maxPerType, []⟩

/-- The cached objects of a type; an index that another kind took first has none of them. -/
def objects? (cache : ObjectCache) (key : CacheKey kind) : Option (List kind.Carrier) := do
  let list ← (cache.lists[key.index]?).join
  if h : list.kind = kind then return h ▸ list.objects else none

/-- Replaces the list of a type. -/
def setObjects (cache : ObjectCache) (key : CacheKey kind) (objects : List kind.Carrier) :
    ObjectCache :=
  let lists := cache.lists ++ List.replicate (key.index + 1 - cache.lists.length) none
  { cache with lists := lists.set key.index (some ⟨kind, objects⟩) }

/-- Takes out the object of a type that was put in last. -/
def take (key : CacheKey kind) : StateM ObjectCache (Option kind.Carrier) := do
  let cache ← get
  match cache.objects? key with
  | some (object :: rest) =>
    set (cache.setObjects key rest)
    return some object
  | _ => return none

/-- Whether the list of an index was begun by another kind. -/
def isForeign (cache : ObjectCache) (key : CacheKey kind) : Bool :=
  ((cache.lists[key.index]?).join).isSome && (cache.objects? key).isNone

/-- Puts an object in, and says whether it was kept. -/
def put (key : CacheKey kind) (object : kind.Carrier) : StateM ObjectCache Bool := do
  let cache ← get
  if cache.isForeign key then
    return false
  let objects := (cache.objects? key).getD []
  if cache.maxPerType ≤ objects.length then
    set (cache.setObjects key objects)
    return false
  set (cache.setObjects key (object :: objects))
  return true

/-- The number of cached objects of a type. -/
def lengthOf (cache : ObjectCache) (key : CacheKey kind) : Nat :=
  ((cache.objects? key).getD []).length

/-- Drops all objects. -/
def clear (cache : ObjectCache) : ObjectCache :=
  { cache with lists := [] }

/-- The inspection text of a cache. -/
def inspect (cache : ObjectCache) : String :=
  Text.inspectRecord "ObjectCache"
    [("max_per_type", toString cache.maxPerType),
      ("types", toString (cache.lists.filter Option.isSome).length)]

end ObjectCache

end Conduit
