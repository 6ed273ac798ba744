import Conduit.Proofs.Worker.Jobs
import Mathlib.Data.List.Chain

/-!
# A pool with one thread

A pool is used from outside: jobs are submitted, the thread takes one when it comes to it, other things go
on in between, and in the end the pool is shut down. Along with the pool and the world, a run keeps the
jobs that were accepted and the record of every job that the thread took (`PoolRun`).

The main statement is `PoolRun.served_run`. The accepted jobs are those that have run, once and in order,
and those that wait, of which none is left when the pool has been shut down; every job is run properly; and
the worker passes from one job to the next with what lasts, and nothing else.
-/

namespace Conduit

/-! ### Runs of a pool -/

/-- What happens to a pool with one thread. -/
inductive PoolOp (S U : Type) where
  /-- A job is submitted. -/
  | submit (job : ThreadProgram S U)
  /-- The thread takes a job, if one is waiting. -/
  | take
  /-- Something happens elsewhere. -/
  | around (change : ThreadEnv S U → ThreadEnv S U)
  /-- The pool is shut down. -/
  | shutdown

namespace PoolOp

variable {S U : Type}

/-- The job that is submitted. -/
def job? : PoolOp S U → Option (ThreadProgram S U)
  | submit job => some job
  | _ => none

/-- Whether the pool is shut down. -/
def isShutdown : PoolOp S U → Bool
  | shutdown => true
  | _ => false

/-- The jobs that are submitted before the pool is shut down. -/
def jobs (ops : List (PoolOp S U)) : List (ThreadProgram S U) :=
  (ops.takeWhile fun op ↦ !op.isShutdown).filterMap job?

/-- The jobs of a history, by its first operation. None is accepted after a shutdown. -/
theorem jobs_cons (op : PoolOp S U) (ops : List (PoolOp S U)) :
    jobs (op :: ops) = if op.isShutdown then [] else op.job?.toList ++ jobs ops := by
  cases op <;> rfl

theorem jobs_concat (ops : List (PoolOp S U)) (op : PoolOp S U) :
    jobs (ops ++ [op]) = if ops.any isShutdown then jobs ops else jobs ops ++ op.job?.toList := by
  induction ops with
  | nil => cases op <;> rfl
  | cons first rest ih =>
    rw [List.cons_append, jobs_cons, jobs_cons, ih, List.any_cons]
    cases first.isShutdown
    · by_cases hrest : rest.any isShutdown = true <;> simp [hrest]
    · rfl

end PoolOp

/-- A pool that is in use, and the world around it. -/
structure PoolRun (S U : Type) where
  /-- The pool. -/
  pool : WorkerPool (ThreadProgram S U)
  /-- The world. -/
  world : ThreadWorld S U
  /-- The jobs that were accepted, in the order of their submission. -/
  accepted : List (ThreadProgram S U) := []
  /-- The jobs that the thread took, in order. -/
  ran : List (JobRun S U) := []

namespace PoolRun

variable {S U : Type}

/-- The worker of the thread, when it has just been made. -/
def worker (settings : WorkerSettings) (clock : ClockRef) (registry : Registry)
    (world : ThreadWorld S U) : Worker :=
  .new (WorkerPool.workerName settings 0) settings clock (world.env.now clock) registry

/-- A pool that has just been started. -/
def start (settings : WorkerSettings) (ref : WorkerRef) (clock : ClockRef) (registry : Registry)
    (world : ThreadWorld S U) : PoolRun S U :=
  let workers := Function.update world.workers ref (worker settings clock registry world)
  { pool := .new settings [ref], world := { world with workers } }

/-- Starting a pool with one thread comes to that, if there is room for the pool and its thread can bear its
name. -/
theorem start_eq {settings : WorkerSettings} {ref : WorkerRef} {clock : ClockRef} {registry : Registry}
    {world : ThreadWorld S U} (hthreads : settings.threads = 1)
    (hroom : settings.queueCapacity ≤ WorkerPool.room)
    (hname : '\x00' ∉ (WorkerPool.workerName settings 0).toList) :
    WorkerPool.start settings (fun name w ↦ (ref, { w with
      workers := Function.update w.workers ref
        (.new name settings clock (w.env.now clock) registry) })) world =
      (.ok (start settings ref clock registry world).pool,
        (start settings ref clock registry world).world) := by
  have hfits : ¬ (WorkerPool.room < settings.queueCapacity ∨ WorkerPool.room < settings.threads) := by
    rw [hthreads]
    exact not_or.2 ⟨Nat.not_lt.2 hroom, by decide⟩
  have hnames : (List.range settings.threads).map (WorkerPool.workerName settings) =
      [WorkerPool.workerName settings 0] := by
    rw [hthreads]
    rfl
  have hbears : (WorkerPool.workerName settings 0).toList.contains '\x00' = false := by
    simpa using hname
  simp only [WorkerPool.start, if_neg hfits, hnames, List.find?_cons, List.find?_nil, hbears]
  rfl

/-- The thread takes the oldest job. -/
def take (s : PoolRun S U) : PoolRun S U :=
  match s.pool.queue with
  | [] => s
  | job :: queue =>
    let r : JobRun S U := ⟨{ s.pool with queue }, job, s.world⟩
    { s with pool := r.finish.1, world := r.finish.2, ran := s.ran ++ [r] }

/-- The thread takes all jobs, one after another. -/
def drain (s : PoolRun S U) : PoolRun S U :=
  take^[s.pool.queue.length] s

/-- Whether a job can be submitted only after the thread has taken another one. -/
def isBlocked (s : PoolRun S U) : Bool :=
  s.pool.accepting && !s.pool.threads.isEmpty && s.pool.capacity ≠ 0 &&
    s.pool.capacity ≤ s.pool.queue.length

/-- What happens to a pool, and what is recorded of it. -/
def step (s : PoolRun S U) : PoolOp S U → PoolRun S U
  | .submit job =>
    let ((answer, pool), world) :=
      s.pool.submit ThreadWorld.quiet.toWorkerHost ThreadProgram.job 0 job s.world
    { pool, world
      accepted := s.accepted ++ (answer.toOption.map fun _ ↦ job).toList
      ran := (if s.isBlocked then s.take else s).ran }
  | .take =>
    let (pool, world) := s.pool.runNext ThreadWorld.quiet.toWorkerHost ThreadProgram.job 0 s.world
    { s.take with pool, world }
  | .around change => { s with world := { s.world with env := change s.world.env } }
  | .shutdown =>
    let (pool, world) := s.pool.shutdown ThreadWorld.quiet.toWorkerHost ThreadProgram.job 0 s.world
    { drain { s with pool := { s.pool with accepting := false } } with pool, world }

/-- A run. -/
def run (s : PoolRun S U) (ops : List (PoolOp S U)) : PoolRun S U :=
  ops.foldl step s

/-! ### What the thread takes -/

/-- A thread of the pool takes the next job. -/
theorem runNext_eq (s : PoolRun S U) :
    s.pool.runNext ThreadWorld.quiet.toWorkerHost ThreadProgram.job 0 s.world =
      (s.take.pool, s.take.world) := by
  cases hqueue : s.pool.queue <;> simp only [WorkerPool.runNext, take, hqueue] <;> rfl

/-- A thread of the pool takes jobs until there are none left. -/
theorem runAll_eq (s : PoolRun S U) :
    s.pool.runAll ThreadWorld.quiet.toWorkerHost ThreadProgram.job 0 s.world =
      (s.drain.pool, s.drain.world) := by
  rw [WorkerPool.runAll, drain]
  generalize s.pool.queue = queue
  induction queue generalizing s with
  | nil => rfl
  | cons job queue ih =>
    rw [List.foldlM_cons, List.length_cons, Function.iterate_succ_apply, ← ih s.take]
    simp only [bind, StateT.bind, runNext_eq]

/-- What is true of a pool that is in use. -/
structure Served (ref : WorkerRef) (initial : Worker) (s : PoolRun S U) : Prop where
  /-- Every job that was accepted has run, once and in order, or is waiting. -/
  once : s.ran.map JobRun.job ++ s.pool.queue = s.accepted
  proper : ∀ r ∈ s.ran, r.Proper ref initial.probe.anchor
  /-- A job finds what lasts as the one before has left it, no matter how that one ended. -/
  handed : s.ran.IsChain fun r next ↦ (r.ended.2.workers ref).Lasts (next.found.workers ref)
  /-- The first job finds it as it is in a new worker. -/
  first : ∀ r ∈ s.ran.head?, initial.Lasts (r.found.workers ref)
  /-- The worker is as the last job has left it. -/
  latest : s.world.workers ref = (s.ran.getLast?.map fun r ↦ r.finish.2.workers ref).getD initial
  /-- While no job runs, the worker has nothing to do. -/
  rests : (s.world.workers ref).Rests initial.probe.anchor

section Served

variable {ref : WorkerRef} {initial : Worker} {s : PoolRun S U}

/-- **One job.** -/
theorem Served.take (h : s.Served ref initial) (hthreads : s.pool.threads = [⟨some ref, false⟩]) :
    s.take.Served ref initial ∧ s.take.pool = { s.pool with queue := s.pool.queue.tail } ∧
      s.take.accepted = s.accepted := by
  cases hqueue : s.pool.queue with
  | nil =>
    have htake : s.take = s := by rw [PoolRun.take, hqueue]
    rw [htake]
    exact ⟨h, by rw [List.tail_nil, ← hqueue], rfl⟩
  | cons job queue =>
    let r : JobRun S U := ⟨{ s.pool with queue }, job, s.world⟩
    have htake : s.take = { s with pool := r.finish.1, world := r.finish.2, ran := s.ran ++ [r] } := by
      rw [PoolRun.take, hqueue]
    have hproper : r.Proper ref initial.probe.anchor := JobRun.proper_of_rests hthreads h.rests
    have hlatest := h.latest
    rw [htake]
    refine ⟨⟨?_, ?_, ?_, ?_, ?_, ?_⟩, hproper.pool, rfl⟩
    · rw [hproper.pool, ← h.once, hqueue]
      simp [r]
    · exact List.forall_mem_append.2 ⟨h.proper, List.forall_mem_singleton.2 hproper⟩
    · refine List.isChain_append.2 ⟨h.handed, List.isChain_singleton r, fun last hlast next hnext ↦ ?_⟩
      obtain rfl := Option.some.inj hnext
      rw [Option.mem_def.1 hlast] at hlatest
      have hleaves := (h.proper last (List.mem_of_getLast? hlast)).leaves
      rw [← show s.world.workers ref = last.finish.2.workers ref from hlatest] at hleaves
      exact hleaves.trans hproper.finds
    · intro first hfirst
      cases hran : s.ran with
      | nil =>
        rw [hran] at hfirst hlatest
        obtain rfl := Option.some.inj hfirst
        have hfinds := hproper.finds
        rwa [show r.start.workers ref = initial from hlatest] at hfinds
      | cons head rest =>
        rw [hran] at hfirst
        exact h.first first (by rw [hran]; exact hfirst)
    · simp
    · exact hproper.rests

/-- Many jobs, one after another. -/
theorem Served.iterate_take (h : s.Served ref initial) (hthreads : s.pool.threads = [⟨some ref, false⟩])
    (count : Nat) :
    (PoolRun.take^[count] s).Served ref initial ∧
      (PoolRun.take^[count] s).pool = { s.pool with queue := s.pool.queue.drop count } ∧
      (PoolRun.take^[count] s).accepted = s.accepted := by
  induction count generalizing s with
  | zero => exact ⟨h, rfl, rfl⟩
  | succ count ih =>
    obtain ⟨htaken, hpool, haccepted⟩ := h.take hthreads
    obtain ⟨hserved, hpool', haccepted'⟩ := ih htaken (by rw [hpool]; exact hthreads)
    rw [Function.iterate_succ_apply]
    refine ⟨hserved, ?_, haccepted'.trans haccepted⟩
    rw [hpool', hpool, List.drop_tail]

/-- A pool that has taken all its jobs has none that wait. -/
theorem Served.drain (h : s.Served ref initial) (hthreads : s.pool.threads = [⟨some ref, false⟩]) :
    s.drain.Served ref initial ∧ s.drain.pool = { s.pool with queue := [] } ∧
      s.drain.accepted = s.accepted := by
  have hdrained := h.iterate_take hthreads s.pool.queue.length
  rwa [List.drop_length] at hdrained

/-- One more job waits. -/
theorem Served.enqueue (h : s.Served ref initial) (job : ThreadProgram S U) :
    Served ref initial { s with
      pool := { s.pool with queue := s.pool.queue ++ [job] }, accepted := s.accepted ++ [job] } where
  once := by rw [← List.append_assoc, h.once]
  proper := h.proper
  handed := h.handed
  first := h.first
  latest := h.latest
  rests := h.rests

end Served

/-- What has become of a pool by the operations on it. -/
structure Follows (ref : WorkerRef) (initial : Worker) (ops : List (PoolOp S U)) (s : PoolRun S U) : Prop
    extends Served ref initial s where
  /-- The jobs that were submitted before the pool was shut down were accepted, and no others. -/
  accepted : s.accepted = PoolOp.jobs ops
  /-- Until then the thread is in service. -/
  serving : ops.any PoolOp.isShutdown = false →
    s.pool.accepting = true ∧ s.pool.threads = [⟨some ref, false⟩]
  /-- Since then no job is waiting. -/
  shut : ops.any PoolOp.isShutdown = true → s.pool.accepting = false ∧ s.pool.queue = []

/-! ### Operations -/

section Follows

variable {ref : WorkerRef} {initial : Worker} {ops : List (PoolOp S U)} {s : PoolRun S U}

/-- A pool in service takes every job. When no further job may wait, the thread first takes one. -/
theorem step_submit_of_serving (haccepting : s.pool.accepting = true)
    (hthreads : s.pool.threads.isEmpty = false) (job : ThreadProgram S U) :
    s.step (.submit job) =
      let ready := if s.isBlocked then s.take else s
      ⟨{ ready.pool with queue := ready.pool.queue ++ [job] }, ready.world, s.accepted ++ [job], ready.ran⟩ := by
  have hopen : (!s.pool.accepting || s.pool.threads.isEmpty) = false := by rw [haccepting, hthreads]; rfl
  have hblocked : s.isBlocked = true ↔ s.pool.capacity ≠ 0 ∧ s.pool.capacity ≤ s.pool.queue.length := by
    simp [isBlocked, haccepting, hthreads]
  have hsubmit : s.pool.submit ThreadWorld.quiet.toWorkerHost ThreadProgram.job 0 job s.world =
      let ready := if s.isBlocked then s.take else s
      ((.ok (), { ready.pool with queue := ready.pool.queue ++ [job] }), ready.world) := by
    simp only [WorkerPool.submit, hopen, Bool.false_eq_true, if_false, hblocked, bind]
    split
    · simp only [StateT.bind, runNext_eq]
      rfl
    · rfl
  simp only [step, hsubmit]
  rfl

/-- A pool that was shut down takes no job. -/
theorem step_submit_of_shut (haccepting : s.pool.accepting = false) (job : ThreadProgram S U) :
    s.step (.submit job) = s := by
  have hsubmit : s.pool.submit ThreadWorld.quiet.toWorkerHost ThreadProgram.job 0 job s.world =
      ((.error WorkerPool.shutdownFault, s.pool), s.world) := by
    simp only [WorkerPool.submit, haccepting, Bool.not_false, Bool.true_or, if_true]
    rfl
  have hblocked : s.isBlocked = false := by simp [isBlocked, haccepting]
  simp only [step, hsubmit, hblocked, Bool.false_eq_true, if_false]
  simp [Except.toOption]

theorem step_take (s : PoolRun S U) : s.step .take = s.take := by
  simp only [step, runNext_eq]

/-- A shutdown lets the jobs that wait be run, and accepts no more. -/
theorem step_shutdown (s : PoolRun S U) :
    s.step .shutdown =
      let drained := drain { s with pool := { s.pool with accepting := false } }
      { drained with pool := { drained.pool with threads := [] } } := by
  have hall := runAll_eq { s with pool := { s.pool with accepting := false } }
  have hshutdown : s.pool.shutdown ThreadWorld.quiet.toWorkerHost ThreadProgram.job 0 s.world =
      let drained := drain { s with pool := { s.pool with accepting := false } }
      ({ drained.pool with threads := [] }, drained.world) := by
    simp only [WorkerPool.shutdown, bind, StateT.bind, hall]
    rfl
  simp only [step, hshutdown]

/-! ### Runs -/

/-- What was served is told by the queue, the workers and the two lists of jobs alone. -/
theorem Served.congr {t : PoolRun S U} (h : s.Served ref initial) (hqueue : t.pool.queue = s.pool.queue)
    (hworkers : t.world.workers = s.world.workers) (haccepted : t.accepted = s.accepted)
    (hran : t.ran = s.ran) : t.Served ref initial := by
  obtain ⟨honce, hproper, hhanded, hfirst, hlatest, hrests⟩ := h
  constructor <;> simp only [hqueue, hworkers, haccepted, hran] <;> assumption

/-- A pool that was shut down stays as it is. -/
theorem Follows.step_of_shut (h : s.Follows ref initial ops) (hshut : ops.any PoolOp.isShutdown = true)
    (op : PoolOp S U) : (s.step op).Follows ref initial (ops ++ [op]) := by
  obtain ⟨haccepting, hqueue⟩ := h.shut hshut
  have hstays : ∀ t : PoolRun S U, t.pool.queue = [] → t.pool.accepting = false →
      t.world.workers = s.world.workers → t.accepted = s.accepted → t.ran = s.ran →
      t.Follows ref initial (ops ++ [op]) := by
    intro t hqueue' hclosed hworkers haccepted hran
    have hany : (ops ++ [op]).any PoolOp.isShutdown = true := by simp [hshut]
    refine ⟨h.toServed.congr (hqueue'.trans hqueue.symm) hworkers haccepted hran, ?_, fun hnone ↦ ?_,
      fun _ ↦ ⟨hclosed, hqueue'⟩⟩
    · rw [haccepted, h.accepted, PoolOp.jobs_concat, if_pos hshut]
    · exact absurd (hany.symm.trans hnone) (by decide)
  cases op with
  | submit job =>
    rw [step_submit_of_shut haccepting]
    exact hstays s hqueue haccepting rfl rfl rfl
  | take =>
    have htake : s.take = s := by rw [PoolRun.take, hqueue]
    rw [step_take, htake]
    exact hstays s hqueue haccepting rfl rfl rfl
  | around change => exact hstays _ hqueue haccepting rfl rfl rfl
  | shutdown =>
    have hdrain : drain { s with pool := { s.pool with accepting := false } } =
        { s with pool := { s.pool with accepting := false } } := by
      simp only [drain, hqueue]
      rfl
    rw [step_shutdown, hdrain]
    exact hstays _ hqueue rfl rfl rfl rfl

/-- A pool in service goes on with its jobs, and is left without any when it is shut down. -/
theorem Follows.step_of_serving (h : s.Follows ref initial ops)
    (hserves : ops.any PoolOp.isShutdown = false) (op : PoolOp S U) :
    (s.step op).Follows ref initial (ops ++ [op]) := by
  obtain ⟨haccepting, hthreads⟩ := h.serving hserves
  have hjobs : PoolOp.jobs (ops ++ [op]) = s.accepted ++ op.job?.toList := by
    rw [PoolOp.jobs_concat, hserves, if_neg Bool.false_ne_true, h.accepted]
  have hany : (ops ++ [op]).any PoolOp.isShutdown = op.isShutdown := by simp [hserves]
  have hgoes : ∀ t : PoolRun S U, t.Served ref initial → t.accepted = s.accepted ++ op.job?.toList →
      t.pool.accepting = true → t.pool.threads = [⟨some ref, false⟩] → op.isShutdown = false →
      t.Follows ref initial (ops ++ [op]) := by
    intro t hserved haccepted hopen hthreads' hop
    exact ⟨hserved, haccepted.trans hjobs.symm, fun _ ↦ ⟨hopen, hthreads'⟩,
      fun hsome ↦ absurd (hop.symm.trans (hany.symm.trans hsome)) (by decide)⟩
  obtain ⟨htaken, hpool, haccepted⟩ := h.toServed.take hthreads
  have hopen' : s.take.pool.accepting = true := by rw [hpool]; exact haccepting
  have hthreads' : s.take.pool.threads = [⟨some ref, false⟩] := by rw [hpool]; exact hthreads
  cases op with
  | submit job =>
    rw [step_submit_of_serving haccepting (by rw [hthreads]; rfl)]
    cases s.isBlocked with
    | true =>
      have hqueued : Served ref initial ⟨{ s.take.pool with queue := s.take.pool.queue ++ [job] },
          s.take.world, s.accepted ++ [job], s.take.ran⟩ :=
        (htaken.enqueue job).congr rfl rfl (by rw [haccepted]) rfl
      exact hgoes _ hqueued rfl hopen' hthreads' rfl
    | false => exact hgoes _ (h.toServed.enqueue job) rfl haccepting hthreads rfl
  | take =>
    rw [step_take]
    exact hgoes _ htaken (by rw [haccepted]; simp [PoolOp.job?]) hopen' hthreads' rfl
  | around change =>
    have haccepted' : (s.step (.around change)).accepted = s.accepted ++ [] := (List.append_nil _).symm
    exact hgoes _ (h.toServed.congr rfl rfl rfl rfl) haccepted' haccepting hthreads rfl
  | shutdown =>
    have hclosing : Served ref initial { s with pool := { s.pool with accepting := false } } :=
      h.toServed.congr rfl rfl rfl rfl
    obtain ⟨hdrained, hpool', haccepted'⟩ := hclosing.drain hthreads
    rw [step_shutdown]
    refine ⟨hdrained.congr rfl rfl rfl rfl, ?_, fun hnone ↦ ?_, fun _ ↦ ?_⟩
    · rw [hjobs]
      exact haccepted'.trans (List.append_nil _).symm
    · exact (Bool.false_ne_true (hany.symm.trans hnone).symm).elim
    · simp only [hpool']
      exact ⟨trivial, trivial⟩

/-- **One operation.** -/
theorem Follows.step (h : s.Follows ref initial ops) (op : PoolOp S U) :
    (s.step op).Follows ref initial (ops ++ [op]) := by
  cases hshut : ops.any PoolOp.isShutdown with
  | true => exact h.step_of_shut hshut op
  | false => exact h.step_of_serving hshut op

theorem follows_start (settings : WorkerSettings) (ref : WorkerRef) (clock : ClockRef)
    (registry : Registry) (world : ThreadWorld S U) :
    (start settings ref clock registry world).Follows ref (worker settings clock registry world) [] where
  once := rfl
  proper r hr := absurd hr List.not_mem_nil
  handed := .nil
  first r hr := (Option.some_ne_none r hr.symm).elim
  latest := Function.update_self ..
  rests := by
    have hworker : (start settings ref clock registry world).world.workers ref =
        worker settings clock registry world := Function.update_self ..
    rw [hworker]
    exact Worker.rests_new _ _ _ _ _
  accepted := rfl
  serving _ := ⟨rfl, rfl⟩
  shut h := (Bool.false_ne_true h).elim

/-- **Every job that a pool accepts is run, once and in order, and finds the thread as if it were new, but
for what lasts.** The accepted jobs are those that were submitted before the pool was shut down, and none of
them waits any more afterwards. Each finds that it is the one unit in progress, with a transaction of its own
and without attributes; its arena, its cache and its timeout are as the job before has left them, whether
that one has returned or panicked; and after it the worker is idle. -/
theorem served_run (settings : WorkerSettings) (ref : WorkerRef) (clock : ClockRef) (registry : Registry)
    (world : ThreadWorld S U) (ops : List (PoolOp S U)) :
    ((start settings ref clock registry world).run ops).Follows ref
      (worker settings clock registry world) ops := by
  induction ops using List.reverseRecOn with
  | nil => exact follows_start settings ref clock registry world
  | append_singleton ops op ih =>
    rw [run, List.foldl_append, List.foldl_cons, List.foldl_nil]
    exact ih.step op

end Follows

/-! ### What is handed on besides -/

/-- A job that sets the timeout of its thread and then panics. -/
def hasty : ThreadProgram Unit Unit :=
  .access (fun _ ↦ .alter (.setTimeout (some 5)) fun _ ↦ .done (.ok (.ok .invoke)) id)
    fun _ ↦ .done (.error .other) id

/-- There is a hasty job, and another one after a clock has gone on by its longest step. -/
def delayed : List (PoolOp Unit Unit) :=
  [.submit hasty, .take, .around fun _ ↦ .late, .submit (.done (.ok (.ok .invoke)) id), .shutdown]

/-- A world in which the clocks show nothing yet. -/
def dawn : ThreadWorld Unit Unit where
  slot := {}
  workers _ := default
  env := { ThreadEnv.late with now _ := 0 }

/-- It is not so that the transaction of a job always starts exactly when the job does, nor that its timeout
is always that of the settings: the job before may have changed it, and then have panicked. -/
theorem not_forall_found :
    (¬ ∀ (S U : Type) (settings : WorkerSettings) (ref : WorkerRef) (clock : ClockRef)
      (registry : Registry) (world : ThreadWorld S U) (ops : List (PoolOp S U)),
      ∀ r ∈ ((start settings ref clock registry world).run ops).ran,
        (r.found.workers ref).probe.startedAt? = some r.thread.reading) ∧
    ¬ ∀ (S U : Type) (settings : WorkerSettings) (ref : WorkerRef) (clock : ClockRef)
      (registry : Registry) (world : ThreadWorld S U) (ops : List (PoolOp S U)),
      ∀ r ∈ ((start settings ref clock registry world).run ops).ran,
        (r.found.workers ref).probe.timeout? = settings.transactionTimeout? := by
  constructor
  · intro h
    have hstarted := h Unit Unit { threads := 1 } ⟨0⟩ ⟨0⟩ (.new 0 0) dawn delayed
    exact absurd hstarted (by decide)
  · intro h
    have htimeout := h Unit Unit { threads := 1 } ⟨0⟩ ⟨0⟩ (.new 0 0) dawn delayed
    exact absurd htimeout (by decide)

end PoolRun

end Conduit
