import Conduit.Proofs.Worker.Units
import Conduit.Worker.Pool

/-!
# A job on the thread of a pool

A pool runs a job as a unit of work on a thread of its own. Here a job is any program, and what it came to
is recorded together with the pool and the world in which it was taken from the queue (`JobRun`).

However the job ends, its unit is over and its thread in service again (`JobRun.Proper`): the worker that
the next job finds differs from a new one only by what lasts, which is to say by its arena, its cache and
its timeout (`Worker.Lasts`).
-/

namespace Conduit

open Scope

/-! ### Workers between two jobs -/

namespace Worker

/-- What a worker keeps from one unit of work to the next. -/
structure Lasts (worker later : Worker) : Prop where
  name : later.name = worker.name
  clock : later.clock = worker.clock
  anchor : later.probe.anchor = worker.probe.anchor
  arena : later.arena = worker.arena
  cache : later.cache = worker.cache
  timeout : later.probe.timeout = worker.probe.timeout

/-- A worker that has nothing to do; `anchor` is when its probe was made. -/
structure Rests (anchor : Nat) (worker : Worker) : Prop where
  unitDepth : worker.unitDepth = 0
  started : worker.probe.startedAt? = none
  anchored : worker.probe.anchor = anchor
  /-- Nobody has left any attributes. -/
  blank : worker.attributes.Blank

variable {anchor : Nat} {worker : Worker}

theorem Lasts.trans {later last : Worker} (h : worker.Lasts later) (h' : later.Lasts last) :
    worker.Lasts last :=
  ⟨h'.name.trans h.name, h'.clock.trans h.clock, h'.anchor.trans h.anchor, h'.arena.trans h.arena,
    h'.cache.trans h.cache, h'.timeout.trans h.timeout⟩

/-- A worker keeps what it has when a unit begins. -/
theorem lasts_enterUnit (worker : Worker) (now : Nat) : worker.Lasts (worker.enterUnit now) := by
  rw [enterUnit]
  split <;> exact ⟨rfl, rfl, rfl, rfl, rfl, rfl⟩

theorem lasts_leaveUnit (worker : Worker) : worker.Lasts worker.leaveUnit := by
  rw [leaveUnit]
  dsimp only
  split <;> exact ⟨rfl, rfl, rfl, rfl, rfl, rfl⟩

theorem rests_new (name : String) (settings : WorkerSettings) (clock : ClockRef) (now : Nat)
    (registry : Registry) : (Worker.new name settings clock now registry).Rests now :=
  ⟨rfl, rfl, rfl, AttributeStore.blank_new registry⟩

/-- A worker that rests stands as it has to outside of all scopes. -/
theorem Rests.stands (h : worker.Rests anchor) : worker.Stands anchor [] :=
  ⟨h.unitDepth, h.started, h.anchored, h.blank.sound⟩

/-- So stands a worker outside of all scopes, and it rests if nobody has left any attributes. -/
theorem Stands.rests (h : worker.Stands anchor []) (hblank : worker.attributes.Blank) :
    worker.Rests anchor :=
  ⟨h.unitDepth, h.started, h.anchored, hblank⟩

end Worker

/-! ### Jobs -/

/-- A program as a job: who runs it learns at most that it panicked. The scopes that it is inside of and
its history are its own. -/
def ThreadProgram.job {S U : Type} (program : ThreadProgram S U) :
    StateM (ThreadWorld S U) (Except Panic Unit) := fun w ↦
  let ((answer, _), w) := program.run { w with scopes := [.unit w.reading], history := [] }
  (answer.map fun _ ↦ (), { w with scopes := [] })

/-- A job that a thread takes. -/
structure JobRun (S U : Type) where
  /-- The pool, where the job does not wait any more. -/
  pool : WorkerPool (ThreadProgram S U)
  /-- The job. -/
  job : ThreadProgram S U
  /-- The world in which it is taken. -/
  start : ThreadWorld S U

namespace JobRun

variable {S U : Type}

/-- The pool and the world once the job was run. -/
def finish (r : JobRun S U) : WorkerPool (ThreadProgram S U) × ThreadWorld S U :=
  r.pool.runJob ThreadWorld.quiet.toWorkerHost ThreadProgram.job 0 r.job r.start

/-- The world as it is seen from the thread. -/
def thread (r : JobRun S U) : ThreadWorld S U :=
  { r.start with slot := r.pool.threads.getD 0 {} }

/-- The world that the job finds: its unit has been announced to the worker. -/
def found (r : JobRun S U) : ThreadWorld S U :=
  { ((ThreadWorld.quiet (S := S)).enter r.thread).2 with
    scopes := [.unit r.thread.reading], history := [] }

/-- What the job itself comes to. -/
def ended (r : JobRun S U) : StageReply × ThreadWorld S U :=
  r.job.run r.found

/-- How a job is run by the worker `ref`, whose probe was made at `anchor`. -/
structure Proper (ref : WorkerRef) (anchor : Nat) (r : JobRun S U) : Prop where
  /-- The job finds that it is the one unit in progress. -/
  unitDepth : (r.found.workers ref).unitDepth = 1
  /-- The transaction starts when the job does, as far as the probe can tell that time. -/
  started : (r.found.workers ref).probe.startedAt? =
    some (Probe.nearest anchor r.thread.reading)
  /-- It finds no attributes. -/
  blank : (r.found.workers ref).attributes.Blank
  /-- It finds what lasts. -/
  finds : (r.start.workers ref).Lasts (r.found.workers ref)
  /-- It finds all else as it is. -/
  findsElse : r.found.env = r.start.env
  /-- While the job runs, the books of the worker are right. -/
  account : ThreadMoment.Account ref (r.found.workers ref) r.ended.2.history
  /-- All of that happens inside of the unit. -/
  within : ∀ moment ∈ r.ended.2.history, [.unit r.thread.reading] <:+ moment.scopes
  /-- What lasts is left as the job left it. -/
  leaves : (r.ended.2.workers ref).Lasts (r.finish.2.workers ref)
  /-- So is all else. -/
  leavesElse : r.finish.2.env = r.ended.2.env
  /-- After the job the worker has nothing to do. -/
  rests : (r.finish.2.workers ref).Rests anchor
  /-- The thread is in service again. -/
  pool : r.finish.1 = r.pool
  /-- It does not matter whether the job returns or panics. -/
  unwinds : ∀ other : ThreadProgram S U, (other.run r.found).2 = r.ended.2 →
    finish { r with job := other } = r.finish

/-! ### Running a job -/

section Run

variable {ref : WorkerRef} {r : JobRun S U} (hthreads : r.pool.threads = [⟨some ref, false⟩])
include hthreads

theorem slot_thread : r.thread.slot = ⟨some ref, false⟩ := by
  rw [thread, hthreads]
  rfl

/-- The world that a job finds is the thread with a unit more. -/
theorem found_eq : r.found = { r.thread with
    workers := Function.update r.start.workers ref ((r.start.workers ref).enterUnit r.thread.reading)
    scopes := [.unit r.thread.reading], history := [] } := by
  rw [found, ThreadWorld.quiet, ThreadWorld.enter_of_free (slot_thread hthreads)]
  rfl

theorem worker_found :
    r.found.workers ref = (r.start.workers ref).enterUnit r.thread.reading := by
  rw [found_eq hthreads]
  exact Function.update_self ..

/-- The books of the worker begin with what the job finds. -/
theorem kept_found {anchor : Nat} (h : (r.start.workers ref).Rests anchor) :
    r.found.Kept ref (r.found.workers ref) := by
  have hstands := h.stands.enterUnit List.not_mem_nil r.thread.reading
  rw [← worker_found hthreads] at hstands
  refine ⟨⟨?_, hstands.anchored ▸ ?_, trivial⟩, rfl⟩
  · rw [found_eq hthreads]
    exact slot_thread hthreads
  · rw [found_eq hthreads] at hstands ⊢
    exact hstands

/-- A job leaves the books of its worker right. -/
theorem onto_ended {anchor : Nat} (h : (r.start.workers ref).Rests anchor) :
    r.found.Onto ref (r.found.workers ref) r.ended.2 :=
  ThreadWorld.keeps_program r.job _ (kept_found hthreads h)

/-- The clock shows the job what it showed when its unit was announced. -/
theorem reading_enter :
    ((ThreadWorld.quiet (S := S)).enter r.thread).2.reading = r.thread.reading := by
  have hslot := slot_thread hthreads
  rw [ThreadWorld.quiet, ThreadWorld.enter_of_free hslot]
  simp only [ThreadWorld.reading, hslot, Option.map_some, Function.update_self]
  exact congrArg r.thread.env.now (Worker.lasts_enterUnit _ _).clock

theorem job_enter :
    r.job.job ((ThreadWorld.quiet (S := S)).enter r.thread).2 =
      (r.ended.1.1.map fun _ ↦ (), { r.ended.2 with scopes := [] }) := by
  rw [ThreadProgram.job, reading_enter hthreads]
  rfl

/-- What is left of the job is the world with its unit ended, and the place for a worker as it was. -/
theorem finish_eq (hslot : r.ended.2.slot = ⟨some ref, false⟩) :
    r.finish = (r.pool, { r.ended.2 with
      slot := r.start.slot
      workers := Function.update r.ended.2.workers ref (r.ended.2.workers ref).leaveUnit
      scopes := [] }) := by
  have hrun : r.finish =
      let left := (ThreadWorld.quiet.runUnit r.job.job r.thread).2
      ({ r.pool with threads := r.pool.threads.set 0 left.slot }, { left with slot := r.start.slot }) :=
    rfl
  have hentered : ((ThreadWorld.quiet (S := S)).enter r.thread).1 = true := by
    rw [ThreadWorld.quiet, ThreadWorld.enter_of_free (slot_thread hthreads)]
  have hleft : (ThreadWorld.quiet.runUnit r.job.job r.thread).2 = { r.ended.2 with
      workers := Function.update r.ended.2.workers ref (r.ended.2.workers ref).leaveUnit
      scopes := [] } := by
    rw [ConnectionHost.runUnit_eq, job_enter hthreads, hentered, ThreadWorld.quiet,
      ThreadWorld.leave_of_free (by exact hslot)]
  have hback : r.pool.threads.set 0 r.ended.2.slot = r.pool.threads := by
    rw [hthreads, hslot]
    rfl
  rw [hrun, hleft]
  simp only [hback]

/-- **A job is run properly, whatever it does.** -/
theorem proper_of_rests {anchor : Nat} (h : (r.start.workers ref).Rests anchor) :
    r.Proper ref anchor := by
  have honto := onto_ended hthreads h
  have hfound := worker_found hthreads
  have hscopes : r.found.scopes = [.unit r.thread.reading] := by rw [found_eq hthreads]
  have hhistory : r.found.history = [] := by rw [found_eq hthreads]
  have hentered := h.stands.enterUnit List.not_mem_nil r.thread.reading
  rw [← hfound] at hentered
  have hslot : r.ended.2.slot = ⟨some ref, false⟩ :=
    honto.kept.slot_of_notMem (by rw [honto.scopes, hscopes]; simp)
  have hended := honto.kept.stands
  rw [honto.scopes, hscopes, hentered.anchored] at hended
  have hfinish := finish_eq hthreads hslot
  have hworker : r.finish.2.workers ref = (r.ended.2.workers ref).leaveUnit := by
    rw [hfinish]
    exact Function.update_self ..
  refine ⟨hentered.unitDepth, ?_, ?_, ?_, ?_, honto.kept.account, fun moment hmem ↦ ?_, ?_, ?_, ?_, ?_,
    fun other hother ↦ ?_⟩
  · exact hentered.started
  · rw [hfound, Worker.enterUnit_attributes]
    exact h.blank
  · rw [hfound]
    exact Worker.lasts_enterUnit _ _
  · rw [found_eq hthreads]
    rfl
  · obtain ⟨added, hadded, hinside⟩ := honto.grown
    rw [hadded, hhistory, List.append_nil] at hmem
    rw [← hscopes]
    exact hinside moment hmem
  · rw [hworker]
    exact Worker.lasts_leaveUnit _
  · rw [hfinish]
  · rw [hworker]
    obtain ⟨hstands, hblank⟩ := hended.leaveUnit_of_outermost List.not_mem_nil rfl
    exact hstands.rests hblank
  · rw [hfinish]
  · have hended' : (ended { r with job := other }).2 = r.ended.2 := hother
    have hfinish' : finish { r with job := other } = _ := finish_eq hthreads (hended' ▸ hslot)
    rw [hfinish', hended', hfinish]

end Run

end JobRun

end Conduit
