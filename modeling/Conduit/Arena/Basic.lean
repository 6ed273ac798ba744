import Conduit.Arena.SizeClass
import Conduit.Arena.Scratch
import Conduit.Text.Inspect

/-!
# Arenas of scratch buffers

An arena keeps returned scratch buffers on one free list per size class, between a smallest and a
largest pooled class. A request is rounded up to a class and served from that class's list, or
freshly allocated; a returned buffer is rounded down, so that what a list holds always suffices for
its class. A buffer that fits no list, or whose list is full, is discarded.
-/

namespace Conduit

/-- The bounds of an arena. -/
structure ArenaLimits where
  /-- The smallest pooled capacity; smaller requests are rounded up to it. -/
  minClassBytes : Nat := 64
  /-- The largest pooled capacity; larger requests are never pooled. -/
  maxClassBytes : Nat := 65536
  /-- The number of buffers that one free list keeps. -/
  maxBuffersPerClass : Nat := 16
  deriving DecidableEq, Repr, Inhabited

/-- What an arena has done so far, and what it holds. -/
structure ArenaStats where
  /-- The requests that were freshly allocated. -/
  freshAllocations : Nat := 0
  /-- The requests that were served from a free list. -/
  reuses : Nat := 0
  /-- The returned buffers that were kept. -/
  released : Nat := 0
  /-- The returned buffers that were not kept. -/
  discarded : Nat := 0
  /-- The buffers on the free lists. -/
  cachedBuffers : Nat := 0
  /-- The sum of their capacities. -/
  cachedBytes : Nat := 0
  deriving DecidableEq, Repr, Inhabited

/-- Free lists of scratch buffers. -/
structure Arena where
  /-- The bounds as given. -/
  limits : ArenaLimits
  /-- The exponent of the smallest pooled class. -/
  minShift : Nat
  /-- The exponent of the largest pooled class. -/
  maxShift : Nat
  /-- The free lists from the smallest class to the largest, each with the last return first. -/
  lists : List (List Scratch)
  /-- The four counters; what is cached is worked out by `stats`. -/
  counters : ArenaStats
  deriving DecidableEq, Repr, Inhabited

namespace Arena

/-- An arena without buffers. A largest class below the smallest counts as equal to it. -/
def new (limits : ArenaLimits) : Arena :=
  let minShift := (SizeClass.forCapacity limits.minClassBytes).shift
  let maxShift := (SizeClass.forCapacity (max limits.maxClassBytes limits.minClassBytes)).shift
  { limits, minShift, maxShift
    lists := List.replicate (maxShift - minShift + 1) []
    counters := {} }

/-- The free list of the class with the given exponent. -/
def list (arena : Arena) (shift : Nat) : List Scratch :=
  arena.lists.getD (shift - arena.minShift) []

/-- Replaces the free list of the class with the given exponent. -/
def setList (arena : Arena) (shift : Nat) (buffers : List Scratch) : Arena :=
  { arena with lists := arena.lists.set (shift - arena.minShift) buffers }

/-- Counts a fresh allocation. -/
def countFresh (arena : Arena) : Arena :=
  { arena with counters.freshAllocations := arena.counters.freshAllocations + 1 }

/-- Counts a reuse. -/
def countReuse (arena : Arena) : Arena :=
  { arena with counters.reuses := arena.counters.reuses + 1 }

/-- Counts a buffer that was kept. -/
def countReleased (arena : Arena) : Arena :=
  { arena with counters.released := arena.counters.released + 1 }

/-- Counts a buffer that was not kept. -/
def countDiscarded (arena : Arena) : Arena :=
  { arena with counters.discarded := arena.counters.discarded + 1 }

/-- Hands out an empty buffer for a class: the last one returned, or a fresh one. The allocation is
counted before it is made. -/
def take (class_ : SizeClass) : StateM Arena (Except Panic Scratch) := do
  let arena ← get
  let shift := max class_.shift arena.minShift
  if arena.maxShift < shift then
    set arena.countFresh
    return Scratch.allocate class_.bytes
  match arena.list shift with
  | buffer :: rest =>
    set (arena.setList shift rest).countReuse
    return .ok buffer.clear
  | [] =>
    set arena.countFresh
    return Scratch.allocate (SizeClass.ofShift shift).bytes

/-- Hands out an empty buffer of at least the given capacity. -/
def takeFor (capacity : Nat) : StateM Arena (Except Panic Scratch) :=
  take (SizeClass.forCapacity capacity)

/-- The exponent of the free list that accepts the buffer, if one does. -/
def accepting? (arena : Arena) (buffer : Scratch) : Option Nat := do
  let class_ ← SizeClass.floor? buffer.capacity
  guard (arena.minShift ≤ class_.shift ∧ class_.shift ≤ arena.maxShift)
  guard ((arena.list class_.shift).length < arena.limits.maxBuffersPerClass)
  return class_.shift

/-- Takes a buffer back, and says whether it was kept. -/
def release (buffer : Scratch) : StateM Arena Bool := do
  let arena ← get
  match arena.accepting? buffer with
  | some shift =>
    set (arena.setList shift (buffer.clear :: arena.list shift)).countReleased
    return true
  | none =>
    set arena.countDiscarded
    return false

/-- The sum of the capacities on the free lists. -/
def cachedBytes (arena : Arena) : Nat :=
  arena.lists.flatten.foldr (fun buffer bytes ↦ buffer.capacity + bytes) 0

/-- Drops every cached buffer, and says how many bytes they held. -/
def shrink : StateM Arena Nat := do
  let arena ← get
  set { arena with lists := arena.lists.map fun _ ↦ [] }
  return arena.cachedBytes

/-- The counters together with what is cached now. -/
def stats (arena : Arena) : ArenaStats :=
  { arena.counters with
    cachedBuffers := arena.lists.flatten.length
    cachedBytes := arena.cachedBytes }

end Arena

/-- The inspection text of an arena's bounds. -/
def ArenaLimits.inspect (limits : ArenaLimits) : String :=
  Text.inspectRecord "ArenaLimits"
    [("min_class_bytes", toString limits.minClassBytes),
      ("max_class_bytes", toString limits.maxClassBytes),
      ("max_buffers_per_class", toString limits.maxBuffersPerClass)]

/-- The inspection text of an arena's statistics. -/
def ArenaStats.inspect (stats : ArenaStats) : String :=
  Text.inspectRecord "ArenaStats"
    [("fresh_allocations", toString stats.freshAllocations),
      ("reuses", toString stats.reuses),
      ("released", toString stats.released),
      ("discarded", toString stats.discarded),
      ("cached_buffers", toString stats.cachedBuffers),
      ("cached_bytes", toString stats.cachedBytes)]

/-- The inspection text of an arena. -/
def Arena.inspect (arena : Arena) : String :=
  Text.inspectRecord "ThreadArena"
    [("limits", arena.limits.inspect), ("stats", arena.stats.inspect)]

end Conduit
