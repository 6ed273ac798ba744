import Conduit.Proofs.Worker.Scopes
import Mathlib.Algebra.Group.Nat.Defs
import Mathlib.Data.List.Chain
import Mathlib.Logic.Function.Basic

/-!
# Watching the transactions of workers

Whoever has a worker at hand begins and ends its transactions and sets their timeout. Others watch it by
its probes, which they were handed out at any time, or have cloned; all of them go by the one record that
the worker keeps (`Watch`).

The record is of two 64-bit numbers. What can be told from them is compared with what was done: since when
a transaction is running (`WatchStep.runningSince`), and the timeout that was set last
(`WatchStep.lastTimeout`).

* The start of a transaction, its duration and the verdict on it are exact, as long as the transaction does
  not begin more than `2 ^ 64 - 2` nanoseconds after the worker was made (`Watch.timed_run`).
* A finite timeout is read back as it was set, or as the longest one below `2 ^ 64 - 1` if it is longer; but
  `2 ^ 64 - 1` itself is read back as no timeout (`Watch.readsBack_run`).
-/

namespace Conduit

/-! ### Probes -/

namespace Probe

/-- What a probe tells when a transaction started at `start`, if one did, and `timeout` was set. -/
structure Tells (start timeout : Option Nat) (probe : Probe) : Prop where
  startedAt? : probe.startedAt? = start
  elapsed? : ∀ now, probe.elapsed? now = start.map (now - ·)
  isStalled_iff : (∀ duration, timeout = some duration → duration < 2 ^ 64 - 1) → ∀ now,
    probe.isStalled now = true ↔
      ∃ began duration, start = some began ∧ timeout = some duration ∧ duration < now - began

/-- What is read back when a timeout was set. -/
structure ReadsBack (timeout readBack : Option Nat) : Prop where
  /-- Apart from no timeout, there is one that is read back as none. -/
  none_iff : readBack = none ↔ timeout = none ∨ timeout = some (2 ^ 64 - 1)
  exact : ∀ duration, timeout = some duration → duration < 2 ^ 64 - 1 → readBack = some duration
  longest : ∀ duration, timeout = some duration → 2 ^ 64 - 1 < duration → readBack = some (2 ^ 64 - 2)
  le : ∀ duration, timeout = some duration → ∀ shown, readBack = some shown → shown ≤ duration

/-- What is told of a worker that was made at `made`, and is in a transaction since `running`. -/
structure Times (made : Nat) (running timeout : Option Nat) (probe : Probe) : Prop where
  idle : running = none → probe.Tells none timeout
  exact : ∀ since, running = some since → since - made ≤ 2 ^ 64 - 2 → probe.Tells (some since) timeout
  /-- A transaction that begins later is told to have begun at the last time that there is a number for. -/
  late : ∀ since, running = some since → 2 ^ 64 - 2 < since - made →
    probe.Tells (some (made + (2 ^ 64 - 2))) timeout

/-- A timeout is read back, the largest finite ones as the largest that a probe can tell, and one of them
as none. -/
theorem timeout?_setTimeout (probe : Probe) (timeout : Option Nat) :
    (probe.setTimeout timeout).timeout? =
      timeout.bind fun duration ↦
        if duration = 2 ^ 64 - 1 then none else some (min duration (2 ^ 64 - 2)) := by
  cases timeout with
  | none => rfl
  | some duration =>
    have hencoded : (probe.setTimeout (some duration)).timeout =
      if duration < 2 ^ 64 then duration else 2 ^ 64 - 2 := rfl
    have hunlimited : unlimited = 2 ^ 64 - 1 := rfl
    rw [timeout?, hencoded, hunlimited, Option.bind_some]
    rcases Nat.lt_trichotomy duration (2 ^ 64 - 1) with hlt | heq | hgt
    · have hfits : duration < 2 ^ 64 := by omega
      rw [if_pos hfits, if_neg (Nat.ne_of_lt hlt), if_neg (Nat.ne_of_lt hlt),
        Nat.min_eq_left (by omega)]
    · have hfits : duration < 2 ^ 64 := by omega
      rw [if_pos hfits, if_pos heq, if_pos heq]
    · have hlonger : ¬ duration < 2 ^ 64 := by omega
      rw [if_neg hlonger, if_neg (by decide), if_neg (Nat.ne_of_gt hgt), Nat.min_eq_right (by omega)]

/-- **What is read back** of a timeout that was set. -/
theorem readsBack_setTimeout (probe : Probe) (timeout : Option Nat) :
    ReadsBack timeout (probe.setTimeout timeout).timeout? := by
  rw [timeout?_setTimeout]
  cases timeout with
  | none => exact ⟨iff_of_true rfl (.inl rfl), nofun, nofun, nofun⟩
  | some duration =>
    rw [Option.bind_some]
    by_cases heq : duration = 2 ^ 64 - 1
    · rw [if_pos heq]
      exact ⟨iff_of_true rfl (.inr (congrArg some heq)), by rintro _ ⟨⟩; omega, by rintro _ ⟨⟩; omega,
        nofun⟩
    · rw [if_neg heq]
      refine ⟨iff_of_false nofun (by simpa using heq), ?_, ?_, ?_⟩
      · rintro _ ⟨⟩ hlt
        rw [Nat.min_eq_left (by omega)]
      · rintro _ ⟨⟩ hgt
        rw [Nat.min_eq_right (by omega)]
      · rintro _ ⟨⟩ _ ⟨⟩
        exact Nat.min_le_left ..

/-- A transaction is stalled when it takes longer than the timeout. -/
theorem isStalled_iff (probe : Probe) (now : Nat) :
    probe.isStalled now = true ↔
      ∃ began duration, probe.startedAt? = some began ∧ probe.timeout? = some duration ∧
        duration < now - began := by
  rw [isStalled, elapsed?]
  cases probe.startedAt? <;> cases probe.timeout? <;> simp

theorem ReadsBack.eq {timeout readBack : Option Nat} (h : ReadsBack timeout readBack)
    (hfinite : ∀ duration, timeout = some duration → duration < 2 ^ 64 - 1) : readBack = timeout := by
  cases timeout with
  | none => exact h.none_iff.2 (.inl rfl)
  | some duration => exact h.exact duration rfl (hfinite duration rfl)

/-- The verdict on a transaction goes by the start and the timeout that can be told. -/
theorem tells_of_readsBack {probe : Probe} {timeout : Option Nat}
    (h : ReadsBack timeout probe.timeout?) : probe.Tells probe.startedAt? timeout where
  startedAt? := rfl
  elapsed? _ := rfl
  isStalled_iff hfinite now := by rw [isStalled_iff, h.eq hfinite]

end Probe

/-! ### Workers and their probes -/

/-- What a worker is made of. -/
structure WorkerOrigin where
  /-- Its name. -/
  name : String
  /-- The settings. -/
  settings : WorkerSettings
  /-- The clock it goes by. -/
  clock : ClockRef
  /-- What the clock shows when the worker is made. -/
  made : Nat
  /-- The registry of its attributes. -/
  registry : Registry

/-- The worker, as it is made. -/
def WorkerOrigin.worker (origin : WorkerOrigin) : Worker :=
  .new origin.name origin.settings origin.clock origin.made origin.registry

/-- Workers, and the probes that were handed out. -/
structure Watch where
  /-- The workers. -/
  workers : WorkerRef → Worker
  /-- The worker of each probe. A probe has no record of its own. -/
  probes : List WorkerRef

/-- What may be done to a worker. -/
inductive WorkerDeed where
  /-- It begins a transaction. -/
  | begin
  /-- It ends its transaction. -/
  | finish
  /-- Something else, which may be that its timeout is set. -/
  | alter (op : WorkerOp)

namespace WorkerDeed

/-- Does it to a worker whose clock shows `now`. -/
def perform (worker : Worker) (now : Nat) : WorkerDeed → Worker
  | begin => worker.beginTransaction now
  | finish => worker.endTransaction
  | alter op => op.perform worker

/-- Since when the worker is in a transaction then; before, it was since `running`. -/
def running (now : Nat) (running : Option Nat) : WorkerDeed → Option Nat
  | begin => some now
  | finish => none
  | alter _ => running

/-- The timeout then; before, it was `timeout`. -/
def timeout (timeout : Option Nat) : WorkerDeed → Option Nat
  | alter (.setTimeout set) => set
  | _ => timeout

end WorkerDeed

/-- What is done to workers and their probes. -/
inductive WatchOp where
  /-- Something is done to a worker. -/
  | work (ref : WorkerRef) (deed : WorkerDeed)
  /-- A probe of a worker is handed out. -/
  | handOut (ref : WorkerRef)
  /-- A probe that was handed out is cloned. -/
  | clone (index : Nat)

/-- Something is done. -/
structure WatchStep where
  /-- What the clocks show. -/
  now : ClockRef → Nat
  /-- What is done. -/
  op : WatchOp

namespace WatchStep

/-- What a step does to a worker. -/
def deed? (ref : WorkerRef) (step : WatchStep) : Option WorkerDeed :=
  match step.op with
  | .work other deed => if other = ref then some deed else none
  | _ => none

/-- Since when a worker is in a transaction after a step, by its clock; before, it was since `running`. -/
def runningAfter (clock : ClockRef) (ref : WorkerRef) (running : Option Nat) (step : WatchStep) :
    Option Nat :=
  match step.deed? ref with
  | some deed => deed.running (step.now clock) running
  | none => running

/-- The timeout of a worker after a step; before, it was `timeout`. -/
def timeoutAfter (ref : WorkerRef) (timeout : Option Nat) (step : WatchStep) : Option Nat :=
  match step.deed? ref with
  | some deed => deed.timeout timeout
  | none => timeout

/-- When the transaction began that a worker is in after some steps, by its clock. -/
def runningSince (clock : ClockRef) (ref : WorkerRef) (steps : List WatchStep) : Option Nat :=
  steps.foldl (runningAfter clock ref) none

/-- The timeout that was set last for a worker; it was `initial` at first. -/
def lastTimeout (initial : Option Nat) (ref : WorkerRef) (steps : List WatchStep) : Option Nat :=
  steps.foldl (timeoutAfter ref) initial

end WatchStep

namespace Watch

/-- New workers, of which no probe was handed out. -/
def new (origins : WorkerRef → WorkerOrigin) : Watch where
  workers ref := (origins ref).worker
  probes := []

/-- What comes of a step. -/
def act (watch : Watch) (step : WatchStep) : Watch :=
  match step.op with
  | .work ref deed =>
    let worker := watch.workers ref
    { watch with
      workers := Function.update watch.workers ref (deed.perform worker (step.now worker.clock)) }
  | .handOut ref => { watch with probes := watch.probes ++ [ref] }
  | .clone index => { watch with probes := watch.probes ++ watch.probes[index]?.toList }

/-- What comes of steps one after another. -/
def run (watch : Watch) (steps : List WatchStep) : Watch :=
  steps.foldl act watch

/-- The record that a probe goes by. -/
def probe? (watch : Watch) (index : Nat) : Option Probe :=
  watch.probes[index]?.map fun ref ↦ (watch.workers ref).probe

/-- What is to be seen of a worker, by itself and by each of its probes. -/
def Shows (watch : Watch) (ref : WorkerRef) (P : Probe → Prop) : Prop :=
  P (watch.workers ref).probe ∧
    ∀ index, watch.probes[index]? = some ref → ∃ probe, watch.probe? index = some probe ∧ P probe

theorem shows_of {watch : Watch} {ref : WorkerRef} {P : Probe → Prop}
    (h : P (watch.workers ref).probe) : watch.Shows ref P :=
  ⟨h, fun _ hindex ↦ ⟨_, by rw [probe?, hindex]; rfl, h⟩⟩

/-! ### Runs -/

section Run

variable {origin : WorkerOrigin} {running timeout : Option Nat} {worker : Worker} {watch : Watch}
  {ref : WorkerRef}

/-- What a worker keeps of what was done to it: since when it is in a transaction, as far as its probes can
tell that time, and the timeout. -/
structure Keeps (origin : WorkerOrigin) (running timeout : Option Nat) (worker : Worker) : Prop where
  clock : worker.clock = origin.clock
  anchor : worker.probe.anchor = origin.made
  started : worker.probe.startedAt? = running.map (Probe.nearest origin.made)
  timeout : Probe.ReadsBack timeout worker.probe.timeout?

/-- A new worker has no transaction, and the timeout of its settings. -/
theorem keeps_worker (origin : WorkerOrigin) :
    Keeps origin none origin.settings.transactionTimeout? origin.worker :=
  ⟨rfl, rfl, rfl, Probe.readsBack_setTimeout origin.worker.probe _⟩

/-- What is done to a worker has the effect that its deed says. -/
theorem Keeps.perform (h : Keeps origin running timeout worker) (now : Nat) (deed : WorkerDeed) :
    Keeps origin (deed.running now running) (deed.timeout timeout) (deed.perform worker now) := by
  cases deed with
  | begin =>
    refine ⟨h.clock, h.anchor, (Probe.startedAt?_begin worker.probe now).trans ?_, h.timeout⟩
    rw [h.anchor]
    rfl
  | finish => exact ⟨h.clock, h.anchor, rfl, h.timeout⟩
  | alter op =>
    cases op with
    | setTimeout set =>
      exact ⟨h.clock, h.anchor, h.started, Probe.readsBack_setTimeout worker.probe set⟩
    | attributes | arena | cache => exact ⟨h.clock, h.anchor, h.started, h.timeout⟩

/-- A step does nothing to a worker but what it is said to do. -/
theorem workers_act (watch : Watch) (step : WatchStep) (ref : WorkerRef) :
    (watch.act step).workers ref = match step.deed? ref with
      | some deed => deed.perform (watch.workers ref) (step.now (watch.workers ref).clock)
      | none => watch.workers ref := by
  obtain ⟨now, op⟩ := step
  cases op with
  | handOut | clone => rfl
  | work other deed =>
    by_cases heq : other = ref
    · subst heq
      simp only [act, WatchStep.deed?, Function.update_self, if_true]
    · simp only [act, WatchStep.deed?, Function.update_of_ne (Ne.symm heq), if_neg heq]

/-- **One step.** -/
theorem Keeps.act (h : Keeps origin running timeout (watch.workers ref)) (step : WatchStep) :
    Keeps origin (step.runningAfter origin.clock ref running) (step.timeoutAfter ref timeout)
      ((watch.act step).workers ref) := by
  rw [workers_act, h.clock, WatchStep.runningAfter, WatchStep.timeoutAfter]
  cases step.deed? ref with
  | none => exact h
  | some deed => exact h.perform (step.now origin.clock) deed

/-- **A run.** -/
theorem Keeps.run (h : Keeps origin running timeout (watch.workers ref)) (steps : List WatchStep) :
    Keeps origin (steps.foldl (WatchStep.runningAfter origin.clock ref) running)
      (steps.foldl (WatchStep.timeoutAfter ref) timeout) ((watch.run steps).workers ref) := by
  induction steps generalizing watch running timeout with
  | nil => exact h
  | cons step steps ih => exact ih (h.act step)

/-- A worker is as the steps of a run have left it. -/
theorem keeps_run (origins : WorkerRef → WorkerOrigin) (steps : List WatchStep) (ref : WorkerRef) :
    Keeps (origins ref) (WatchStep.runningSince (origins ref).clock ref steps)
      (WatchStep.lastTimeout (origins ref).settings.transactionTimeout? ref steps)
      (((new origins).run steps).workers ref) :=
  (keeps_worker (origins ref)).run steps

end Run

/-! ### Transactions -/

/-- A transaction begins when the clock of its worker shows so. -/
theorem exists_of_foldl_runningAfter {clock : ClockRef} {ref : WorkerRef} {running : Option Nat}
    {steps : List WatchStep} {since : Nat}
    (h : steps.foldl (WatchStep.runningAfter clock ref) running = some since) :
    running = some since ∨ ∃ step ∈ steps, step.now clock = since := by
  induction steps generalizing running with
  | nil => exact .inl h
  | cons step steps ih =>
    rcases ih h with hafter | ⟨other, hmem, hother⟩
    · rw [WatchStep.runningAfter] at hafter
      split at hafter
      · next deed _ =>
        cases deed with
        | begin => exact .inr ⟨step, List.mem_cons_self, Option.some.inj hafter⟩
        | finish => contradiction
        | alter => exact .inl hafter
      · exact .inl hafter
    · exact .inr ⟨other, List.mem_cons_of_mem _ hmem, hother⟩

/-- **Transactions are timed exactly.** Let the clock of a worker never go back. Whatever is done to workers
and probes, whoever watches the worker, by any of its probes, is told when the transaction began that it is
in, how long that has been going on, and that it takes longer than the timeout exactly when it does. A probe
has no number for a start more than `2 ^ 64 - 2` nanoseconds after the worker was made, and takes the last
one that there is. -/
theorem timed_run (origins : WorkerRef → WorkerOrigin) (steps : List WatchStep) (ref : WorkerRef)
    (hclock : ((origins ref).made :: steps.map fun step ↦ step.now (origins ref).clock).IsChain (· ≤ ·)) :
    ((new origins).run steps).Shows ref
      (Probe.Times (origins ref).made (WatchStep.runningSince (origins ref).clock ref steps)
        (WatchStep.lastTimeout (origins ref).settings.transactionTimeout? ref steps)) := by
  have hkeeps := keeps_run origins steps ref
  have htells := Probe.tells_of_readsBack hkeeps.timeout
  rw [hkeeps.started] at htells
  refine shows_of ⟨fun hidle ↦ ?_, fun since hsince hexact ↦ ?_, fun since hsince hlate ↦ ?_⟩
  · rwa [hidle] at htells
  · have hmade : (origins ref).made ≤ since := by
      obtain hnone | ⟨step, hmem, rfl⟩ := exists_of_foldl_runningAfter hsince
      · contradiction
      · exact List.rel_of_pairwise_cons (List.isChain_iff_pairwise.1 hclock) (List.mem_map_of_mem hmem)
    have hlimit : since ≤ (origins ref).made + (Probe.unlimited - 1) := by
      show since ≤ (origins ref).made + (2 ^ 64 - 2)
      omega
    rwa [hsince, Option.map_some, Probe.nearest_of_le hmade hlimit] at htells
  · have hnearest : Probe.nearest (origins ref).made since = (origins ref).made + (2 ^ 64 - 2) := by
      show max (origins ref).made (min since ((origins ref).made + (2 ^ 64 - 2))) = _
      omega
    rwa [hsince, Option.map_some, hnearest] at htells

/-- A worker that is made when its clock shows 5. -/
def made5 (_ : WorkerRef) : WorkerOrigin :=
  ⟨"worker", {}, ⟨0⟩, 5, .new 0 0⟩

/-- A probe is handed out, the timeout set to 100, a transaction begun at once, and the probe cloned. -/
def watched : List WatchStep :=
  [⟨fun _ ↦ 5, .handOut ⟨0⟩⟩, ⟨fun _ ↦ 5, .work ⟨0⟩ (.alter (.setTimeout (some 100)))⟩,
    ⟨fun _ ↦ 5, .work ⟨0⟩ .begin⟩, ⟨fun _ ↦ 40, .clone 0⟩]

/-- A transaction that began when its worker was made has not taken longer than its timeout at 105, but has
at 106. -/
theorem timed_run_pastTimeout :
    (5 :: watched.map fun step ↦ step.now ⟨0⟩).IsChain (· ≤ ·) ∧
      ((new made5).run watched).Shows ⟨0⟩ (Probe.Times 5 (some 5) (some 100)) ∧
      ((new made5).run watched).probes = [⟨0⟩, ⟨0⟩] ∧
      (((new made5).run watched).probe? 1).map (fun probe ↦
        (probe.startedAt?, probe.elapsed? 106, probe.isStalled 105, probe.isStalled 106)) =
        some (some 5, some 101, false, true) :=
  ⟨by decide, timed_run made5 watched ⟨0⟩ (by decide), by decide, by decide⟩

/-- **Timeouts are read back.** Whatever is done to workers and probes, the timeout that was set last for a
worker is what it and all its probes have. A finite timeout is shortened to the longest one that there is a
number for, which leaves those below `2 ^ 64 - 1` nanoseconds as they are. It is only that very number which
is taken for no timeout. -/
theorem readsBack_run (origins : WorkerRef → WorkerOrigin) (steps : List WatchStep) (ref : WorkerRef) :
    ((new origins).run steps).Shows ref fun probe ↦
      Probe.ReadsBack (WatchStep.lastTimeout (origins ref).settings.transactionTimeout? ref steps)
        probe.timeout? :=
  shows_of (keeps_run origins steps ref).timeout

/-- It is not so that a timeout is read back as none only if none was set. The longest time that a probe has
a number for is taken for no timeout. -/
theorem not_forall_none_iff :
    ¬ ∀ (origins : WorkerRef → WorkerOrigin) (steps : List WatchStep) (ref : WorkerRef),
      ((new origins).run steps).Shows ref fun probe ↦
        (probe.timeout? = none ↔
          WatchStep.lastTimeout (origins ref).settings.transactionTimeout? ref steps = none) := by
  intro h
  have hlost := (h made5 [⟨fun _ ↦ 5, .work ⟨0⟩ (.alter (.setTimeout (some (2 ^ 64 - 1))))⟩] ⟨0⟩).1
  exact absurd hlost (by decide)

end Watch

end Conduit
