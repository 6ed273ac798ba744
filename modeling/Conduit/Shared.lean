/-!
# Shared components

Pools, sessions, workers and clocks are held by many at once, and the behaviour that users plug into
them may call back into the component that is calling it. Such components therefore live in a state
`W` that every operation threads through; they are named by references, and reached through cells.
The state itself is left open, so that the plugged-in behaviour may keep whatever it likes in it.
-/

namespace Conduit

/-- A place in the state `W` that holds an `A`. -/
structure Cell (W A : Type) where
  /-- What the place holds. -/
  read : W → A
  /-- The state once the place holds something else. -/
  write : A → W → W

namespace Cell

variable {W A B : Type}

/-- A cell holds what was last written to it, and writing disturbs nothing else. -/
structure Lawful (cell : Cell W A) : Prop where
  read_write : ∀ a w, cell.read (cell.write a w) = a
  write_read : ∀ w, cell.write (cell.read w) w = w
  write_write : ∀ a b w, cell.write a (cell.write b w) = cell.write a w

/-- Reads a cell. -/
def get (cell : Cell W A) : StateM W A :=
  fun w ↦ (cell.read w, w)

/-- Writes a cell. -/
def set (cell : Cell W A) (a : A) : StateM W Unit :=
  fun w ↦ ((), cell.write a w)

/-- Changes what a cell holds. -/
def modify (cell : Cell W A) (f : A → A) : StateM W Unit :=
  fun w ↦ ((), cell.write (f (cell.read w)) w)

/-- Runs an operation on what a cell holds. -/
def run (cell : Cell W A) (f : StateM A B) : StateM W B :=
  fun w ↦
    let (b, a) := f (cell.read w)
    (b, cell.write a w)

end Cell

/-- Names a session. -/
structure SessionRef where
  index : Nat
  deriving DecidableEq, Repr, Inhabited

/-- Names a pool of chain instances. -/
structure PoolRef where
  index : Nat
  deriving DecidableEq, Repr, Inhabited

/-- Names a worker. -/
structure WorkerRef where
  index : Nat
  deriving DecidableEq, Repr, Inhabited

/-- Names a clock. -/
structure ClockRef where
  index : Nat
  deriving DecidableEq, Repr, Inhabited

/-- Names a factory of default values. -/
structure FactoryRef where
  index : Nat
  deriving DecidableEq, Repr, Inhabited

end Conduit
