import Conduit.Panic
import Conduit.Worker.Basic

/-!
# Workers on a thread

A thread has room for one worker. Code that runs on the thread borrows the worker, and while it is
borrowed nobody else gets it: a second attempt finds none, and putting another worker in its place
panics. A unit of work is announced to the worker before it starts and after it ended; where no
worker is to be had, the unit just runs. A body that may unwind answers with `Except Panic`, and
unwinding is an answer like any other here.
-/

namespace Conduit

/-- The place for a worker on a thread. -/
structure WorkerSlot where
  /-- The installed worker. -/
  installed : Option WorkerRef := none
  /-- Whether it is borrowed. -/
  borrowed : Bool := false
  deriving DecidableEq, Repr, Inhabited

/-- The threads and workers within the state `W`. -/
structure WorkerHost (W : Type) where
  /-- The place for a worker on the thread that is running. -/
  slot : Cell W WorkerSlot
  /-- The workers. -/
  worker : WorkerRef → Cell W Worker
  /-- What a clock shows. -/
  now : ClockRef → W → Nat

namespace WorkerSlot

/-- The panic of an attempt to replace a borrowed worker. -/
def inUse : Panic :=
  .text "RefCell already borrowed"

/-- The worker that can be borrowed. -/
def free? (slot : WorkerSlot) : Option WorkerRef :=
  if slot.borrowed then none else slot.installed

/-- Whether a worker is installed; a borrowed one counts. -/
def isInstalled (slot : WorkerSlot) : Bool :=
  slot.borrowed || slot.installed.isSome

/-- Replaces the installed worker, and gives the one before. -/
def replace (worker : Option WorkerRef) : StateM WorkerSlot (Except Panic (Option WorkerRef)) := do
  let slot ← get
  if slot.borrowed then
    return .error inUse
  set { slot with installed := worker }
  return .ok slot.installed

end WorkerSlot

namespace WorkerHost

variable {W α : Type}

/-- Installs a worker on the running thread, and gives the one it replaces. -/
def install (host : WorkerHost W) (worker : WorkerRef) :
    StateM W (Except Panic (Option WorkerRef)) :=
  host.slot.run (WorkerSlot.replace (some worker))

/-- Takes the worker off the running thread. -/
def uninstall (host : WorkerHost W) : StateM W (Except Panic (Option WorkerRef)) :=
  host.slot.run (WorkerSlot.replace none)

/-- Whether a worker is installed on the running thread. -/
def isInstalled (host : WorkerHost W) : StateM W Bool :=
  return (← host.slot.get).isInstalled

/-- Runs a body with the worker of the running thread, if it can be borrowed. -/
def withCurrent (host : WorkerHost W) (body : WorkerRef → StateM W α) :
    StateM W (Option α) := do
  match (← host.slot.get).free? with
  | none => return none
  | some worker =>
    host.slot.modify fun slot ↦ { slot with borrowed := true }
    let answer ← body worker
    host.slot.modify fun slot ↦ { slot with borrowed := false }
    return some answer

/-- Changes the worker of the running thread, and says whether there was one to change. -/
def changeCurrent (host : WorkerHost W) (change : W → Worker → Worker) : StateM W Bool := do
  match (← host.slot.get).free? with
  | none => return false
  | some worker =>
    let w ← get
    (host.worker worker).modify (change w)
    return true

/-- Runs a unit of work. -/
def runUnit (host : WorkerHost W) (body : StateM W α) : StateM W α := do
  let entered ← host.changeCurrent fun w worker ↦ worker.enterUnit (host.now worker.clock w)
  let answer ← body
  if entered then
    discard <| host.changeCurrent fun _ worker ↦ worker.leaveUnit
  return answer

end WorkerHost

end Conduit
