import Conduit.Fault
import Conduit.Worker.Thread

/-!
# Worker pools

A pool has threads, each with a worker of its own, and a queue of jobs. Every job is a unit of work
on the thread that takes it, and a job that panics leaves its thread in service. A pool that was shut
down takes no more jobs, but runs those it took. Nor does a pool without threads take any, since
nobody would run them.

A pool that there is no room for does not start, nor does one whose threads cannot bear their names:
`start` answers with the panic, and makes no worker then.
-/

namespace Conduit

/-- Threads with their workers, and the jobs that wait for them. -/
structure WorkerPool (J : Type) where
  /-- The places for the workers on the pool's threads. -/
  threads : List WorkerSlot
  /-- The workers of the threads, for their probes. -/
  workers : List WorkerRef
  /-- The number of jobs that may wait; zero stands for no bound. -/
  capacity : Nat
  /-- The waiting jobs, oldest first. -/
  queue : List J := []
  /-- Whether new jobs are taken. -/
  accepting : Bool := true
  deriving Inhabited

namespace WorkerPool

variable {W J : Type}

/-- The name of a thread's worker. -/
def workerName (settings : WorkerSettings) (index : Nat) : String :=
  settings.namePrefix ++ "-" ++ toString index

/-- A pool whose threads have the given workers. -/
def new (settings : WorkerSettings) (workers : List WorkerRef) : WorkerPool J where
  threads := workers.map fun worker ↦ { installed := some worker }
  workers
  capacity := settings.queueCapacity

/-- The number of threads, and of waiting jobs, for which a 64-bit address space has room: either takes
24 bytes, and there may be no more than `2 ^ 63 - 1`. -/
def room : Nat := (Nat.pow 2 63 - 1) / 24

/-- The panic of an attempt to start a thread whose name has a NUL character. -/
def nulInName (name : String) : Panic :=
  let bytes := Utf8.ofText name
  .text ("thread name may not contain interior null bytes: NulError(" ++
    toString (bytes.idxOf 0) ++ ", " ++
    Text.inspectList (bytes.map fun b ↦ toString b.toNat) ++ ")")

/-- Starts a pool, whose workers are made one after another under their names. When there is no room
for the pool, or a name is not one that a thread can have, starting panics. -/
def start (settings : WorkerSettings) (make : String → StateM W WorkerRef) :
    StateM W (Except Panic (WorkerPool J)) := do
  if room < settings.queueCapacity ∨ room < settings.threads then
    return .error .capacityOverflow
  let names := (List.range settings.threads).map (workerName settings)
  match names.find? fun name ↦ name.toList.contains '\x00' with
  | some name => return .error (nulInName name)
  | none => return .ok (new settings (← names.mapM make))

/-- The failure of a submission to a pool that was shut down, or has no threads. -/
def shutdownFault : Fault where
  code := Fault.Code.workerShutdown
  message := "worker pool is shut down"

/-- Runs a job as a unit of work on one of the pool's threads. -/
def runJob (host : WorkerHost W) (run : J → StateM W (Except Panic Unit)) (pool : WorkerPool J)
    (thread : Nat) (job : J) : StateM W (WorkerPool J) := do
  let outside ← host.slot.get
  host.slot.set (pool.threads.getD thread {})
  discard <| host.runUnit (run job)
  let inside ← host.slot.get
  host.slot.set outside
  return { pool with threads := pool.threads.set thread inside }

/-- Lets a thread take the oldest waiting job and run it. -/
def runNext (host : WorkerHost W) (run : J → StateM W (Except Panic Unit)) (thread : Nat)
    (pool : WorkerPool J) : StateM W (WorkerPool J) :=
  match pool.queue with
  | [] => pure pool
  | job :: queue => runJob host run { pool with queue } thread job

/-- Lets a thread run the waiting jobs one after another. -/
def runAll (host : WorkerHost W) (run : J → StateM W (Except Panic Unit)) (thread : Nat)
    (pool : WorkerPool J) : StateM W (WorkerPool J) :=
  pool.queue.foldlM (fun pool _ ↦ runNext host run thread pool) pool

/-- Submits a job. When no further job may wait, a thread first takes one. -/
def submit (host : WorkerHost W) (run : J → StateM W (Except Panic Unit)) (thread : Nat) (job : J)
    (pool : WorkerPool J) : StateM W (Except Fault Unit × WorkerPool J) := do
  if !pool.accepting || pool.threads.isEmpty then
    return (.error shutdownFault, pool)
  let full := pool.capacity ≠ 0 ∧ pool.capacity ≤ pool.queue.length
  let pool ← if full then runNext host run thread pool else pure pool
  return (.ok (), { pool with queue := pool.queue ++ [job] })

/-- Shuts the pool down: the waiting jobs are run, and the threads end without their workers. -/
def shutdown (host : WorkerHost W) (run : J → StateM W (Except Panic Unit)) (thread : Nat)
    (pool : WorkerPool J) : StateM W (WorkerPool J) := do
  let pool ← runAll host run thread { pool with accepting := false }
  return { pool with threads := [] }

/-- The inspection text of a pool. -/
def inspect (pool : WorkerPool J) : String :=
  Text.inspectRecord "WorkerPool"
    [("threads", toString pool.threads.length), ("accepting", toString pool.accepting)]

end WorkerPool

end Conduit
