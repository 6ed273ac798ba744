import Conduit.Proofs.Worker.Watching

/-!
# Workers that go by clocks moved by hand

A clock that is moved by hand may be cloned, and its clones are on one timeline: whoever has one of them
moves all of them (`Timing`). What they show is all that the timeline was moved by, but in 64 bits
(`Timing.now_run`). Two things rest on that.

* The readings of a timeline never go back exactly as long as it was moved by less than `2 ^ 64`
  nanoseconds in total (`Timing.isChain_readings_iff`). A single move is shortened to the longest one there
  is a number for, but the sum is not.
* As long as they do not go back, a transaction that was once found to take longer than its timeout is found
  so ever after, until it ends or the timeout is changed (`Timing.verdictStands_of_le`). The probes have the
  same start and timeout to tell then (`Watch.Keeps.of_retains`), and all that matters is the reading.
-/

namespace Conduit

theorem Clock.now_lt (clock : Clock) : clock.now < 2 ^ 64 :=
  clock.elapsed.toNat_lt

/-- A clock moves on by at most its longest step, and begins anew after 64 bits. -/
theorem Clock.now_advance (clock : Clock) (duration : Nat) :
    (clock.advance duration).now = (clock.now + min duration longestStep) % 2 ^ 64 := by
  have hstep : min duration longestStep < UInt64.size :=
    Nat.lt_of_le_of_lt (Nat.min_le_right ..) (by decide)
  rw [now, advance, UInt64.toNat_add, UInt64.toNat_ofNat_of_lt' hstep]
  rfl

/-! ### What a probe goes on telling -/

namespace Probe

variable {probe other : Probe} {now later : Nat}

/-- What is read back of a timeout is a matter of the timeout alone. -/
theorem ReadsBack.unique {timeout readBack readBack' : Option Nat} (h : ReadsBack timeout readBack)
    (h' : ReadsBack timeout readBack') : readBack = readBack' := by
  cases timeout with
  | none => rw [h.none_iff.2 (.inl rfl), h'.none_iff.2 (.inl rfl)]
  | some duration =>
    rcases Nat.lt_trichotomy duration (2 ^ 64 - 1) with hlt | rfl | hgt
    · rw [h.exact duration rfl hlt, h'.exact duration rfl hlt]
    · rw [h.none_iff.2 (.inr rfl), h'.none_iff.2 (.inr rfl)]
    · rw [h.longest duration rfl hgt, h'.longest duration rfl hgt]

/-- A transaction that takes too long does so at any later time. -/
theorem isStalled_of_le (hstalled : probe.isStalled now = true)
    (hstarted : other.startedAt? = probe.startedAt?) (htimeout : other.timeout? = probe.timeout?)
    (hle : now ≤ later) : other.isStalled later = true := by
  obtain ⟨began, duration, hbegan, hduration, hlt⟩ := (isStalled_iff probe now).1 hstalled
  exact (isStalled_iff other later).2 ⟨began, duration, hstarted.trans hbegan, htimeout.trans hduration,
    Nat.lt_of_lt_of_le hlt (Nat.sub_le_sub_right hle began)⟩

end Probe

/-- The transaction of a worker goes on, and its timeout remains what it is. -/
def WorkerDeed.Retains (timeout : Option Nat) : WorkerDeed → Prop
  | .begin => False
  | .finish => False
  | .alter (.setTimeout set) => set = timeout
  | .alter _ => True

/-- Whatever a step does to a worker, its transaction goes on and its timeout remains what it is. -/
def WatchStep.Retains (ref : WorkerRef) (timeout : Option Nat) (step : WatchStep) : Prop :=
  ∀ deed, step.deed? ref = some deed → deed.Retains timeout

section Retains

variable {origin : WorkerOrigin} {running timeout : Option Nat} {ref : WorkerRef} {step : WatchStep}
  {steps : List WatchStep} {watch : Watch}

/-- A transaction that goes on is running as it was. -/
theorem WorkerDeed.running_of_retains {deed : WorkerDeed} (h : deed.Retains timeout) (now : Nat)
    (running : Option Nat) : deed.running now running = running := by
  cases deed with
  | begin | finish => exact h.elim
  | alter => rfl

theorem WorkerDeed.timeout_of_retains {deed : WorkerDeed} (h : deed.Retains timeout) :
    deed.timeout timeout = timeout := by
  cases deed with
  | begin | finish => exact h.elim
  | alter op =>
    cases op with
    | setTimeout set => exact h
    | attributes | arena | cache => rfl

theorem WatchStep.runningAfter_of_retains (h : step.Retains ref timeout) (clock : ClockRef)
    (running : Option Nat) : step.runningAfter clock ref running = running := by
  rw [WatchStep.runningAfter]
  split
  · next deed hdeed => exact WorkerDeed.running_of_retains (h deed hdeed) _ running
  · rfl

theorem WatchStep.timeoutAfter_of_retains (h : step.Retains ref timeout) :
    step.timeoutAfter ref timeout = timeout := by
  rw [WatchStep.timeoutAfter]
  split
  · next deed hdeed => exact WorkerDeed.timeout_of_retains (h deed hdeed)
  · rfl

/-- A worker keeps what it kept while its transaction goes on. -/
theorem Watch.Keeps.of_retains (h : Keeps origin running timeout (watch.workers ref))
    (hsteps : ∀ step ∈ steps, step.Retains ref timeout) :
    Keeps origin running timeout ((watch.run steps).workers ref) := by
  induction steps generalizing watch with
  | nil => exact h
  | cons step steps ih =>
    have hstep := hsteps step List.mem_cons_self
    have hact := h.act step
    rw [WatchStep.runningAfter_of_retains hstep, WatchStep.timeoutAfter_of_retains hstep] at hact
    exact ih hact fun later hmem ↦ hsteps later (List.mem_cons_of_mem _ hmem)

end Retains

/-! ### Timelines -/

/-- Clocks that are moved by hand, and the workers and probes that go by them. -/
structure Timing where
  /-- What the clocks of each timeline show. -/
  clocks : ClockRef → Clock
  /-- The timeline of each clock that somebody has. Clones are on the same one. -/
  handles : List ClockRef
  /-- The workers and their probes. -/
  watch : Watch

/-- What is done with clocks that are moved by hand. -/
inductive TimingOp where
  /-- Somebody moves a clock on. -/
  | advance (handle : Nat) (duration : Nat)
  /-- A clock is cloned. -/
  | clone (handle : Nat)
  /-- Something is done to workers and their probes, which go by what the clocks show. -/
  | watch (op : WatchOp)

namespace Timing

/-- Clocks on the given timelines, none of which was moved yet, and new workers. -/
def new (origins : WorkerRef → WorkerOrigin) (handles : List ClockRef) : Timing where
  clocks _ := {}
  handles
  watch := .new origins

/-- The reading of a timeline. -/
def now (s : Timing) (clock : ClockRef) : Nat :=
  (s.clocks clock).now

/-- What a clock shows to whoever has it. -/
def reading? (s : Timing) (handle : Nat) : Option Nat :=
  s.handles[handle]?.map s.now

/-- What comes of an operation. -/
def act (s : Timing) : TimingOp → Timing
  | .advance handle duration =>
    match s.handles[handle]? with
    | some clock =>
      { s with clocks := Function.update s.clocks clock ((s.clocks clock).advance duration) }
    | none => s
  | .clone handle => { s with handles := s.handles ++ s.handles[handle]?.toList }
  | .watch op => { s with watch := s.watch.act ⟨s.now, op⟩ }

/-- What comes of operations one after another. -/
def run (s : Timing) (ops : List TimingOp) : Timing :=
  ops.foldl act s

/-- How far an operation moves a timeline on. -/
def moved (s : Timing) (clock : ClockRef) : TimingOp → Nat
  | .advance handle duration =>
    if s.handles[handle]? = some clock then min duration Clock.longestStep else 0
  | _ => 0

/-- How far operations move a timeline on in total. -/
def total (s : Timing) (clock : ClockRef) : List TimingOp → Nat
  | [] => 0
  | op :: ops => s.moved clock op + (s.act op).total clock ops

/-- The readings of a timeline, at first and after each operation. -/
def readings (s : Timing) (clock : ClockRef) (ops : List TimingOp) : List Nat :=
  (ops.scanl act s).map (now · clock)

/-- What an operation does to the workers and their probes, if it does anything to them. -/
def watchStep? (s : Timing) : TimingOp → Option WatchStep
  | .watch op => some ⟨s.now, op⟩
  | _ => none

/-- What operations do to the workers and their probes. -/
def watched (s : Timing) : List TimingOp → List WatchStep
  | [] => []
  | op :: ops => (s.watchStep? op).toList ++ (s.act op).watched ops

variable (s : Timing) (clock : ClockRef)

/-- A clock that somebody has stays on its timeline. -/
theorem handles_act (op : TimingOp) : s.handles <+: (s.act op).handles := by
  cases op with
  | advance handle duration =>
    rw [act]
    split <;> exact List.prefix_rfl
  | clone handle => exact List.prefix_append ..
  | watch op => exact List.prefix_rfl

/-- No clock is taken from whoever has it. -/
theorem handles_run (ops : List TimingOp) : s.handles <+: (s.run ops).handles := by
  induction ops generalizing s with
  | nil => exact List.prefix_rfl
  | cons op ops ih => exact (s.handles_act op).trans (ih (s.act op))

/-- An operation does to workers and probes what its step says, if there is one. -/
theorem watch_act (op : TimingOp) : (s.act op).watch = s.watch.run (s.watchStep? op).toList := by
  cases op with
  | advance handle duration =>
    rw [act]
    split <;> rfl
  | clone | watch => rfl

/-- What operations do to workers and probes is the run of their steps. -/
theorem watch_run (ops : List TimingOp) : (s.run ops).watch = s.watch.run (s.watched ops) := by
  induction ops generalizing s with
  | nil => rfl
  | cons op ops ih =>
    calc ((s.act op).run ops).watch
        = (s.watch.run (s.watchStep? op).toList).run ((s.act op).watched ops) := by
          rw [ih (s.act op), watch_act]
      _ = s.watch.run (s.watched (op :: ops)) := List.foldl_append.symm

/-! ### Readings -/

theorem now_lt : s.now clock < 2 ^ 64 :=
  (s.clocks clock).now_lt

theorem moved_lt (op : TimingOp) : s.moved clock op < 2 ^ 64 := by
  cases op with
  | advance handle duration =>
    rw [moved]
    split
    · exact Nat.lt_of_le_of_lt (Nat.min_le_right ..) (by decide)
    · exact Nat.two_pow_pos 64
  | clone | watch => exact Nat.two_pow_pos 64

/-- **One operation.** -/
theorem now_act (op : TimingOp) :
    (s.act op).now clock = (s.now clock + s.moved clock op) % 2 ^ 64 := by
  have hstill : s.now clock = (s.now clock + 0) % 2 ^ 64 := (Nat.mod_eq_of_lt (s.now_lt clock)).symm
  cases op with
  | advance handle duration =>
    rw [act, moved]
    cases s.handles[handle]? with
    | none => exact hstill
    | some other =>
      by_cases heq : other = clock
      · subst heq
        rw [if_pos rfl]
        show (Function.update s.clocks other _ other).now = _
        rw [Function.update_self, Clock.now_advance, now]
      · rw [if_neg (fun h ↦ heq (Option.some.inj h))]
        show (Function.update s.clocks other _ clock).now = _
        rw [Function.update_of_ne (Ne.symm heq)]
        exact hstill
  | clone | watch => exact hstill

/-- **A run.** A timeline shows all that it was moved by, in 64 bits. -/
theorem now_run (ops : List TimingOp) :
    (s.run ops).now clock = (s.now clock + s.total clock ops) % 2 ^ 64 := by
  induction ops generalizing s with
  | nil => exact (Nat.mod_eq_of_lt (s.now_lt clock)).symm
  | cons op ops ih =>
    calc ((s.act op).run ops).now clock
        = ((s.now clock + s.moved clock op) % 2 ^ 64 + (s.act op).total clock ops) % 2 ^ 64 := by
          rw [ih (s.act op), now_act]
      _ = (s.now clock + (s.moved clock op + (s.act op).total clock ops)) % 2 ^ 64 := by
          rw [Nat.mod_add_mod, Nat.add_assoc]

/-- A timeline goes back exactly when the sum does not fit. -/
theorem now_le_now_act_iff (op : TimingOp) :
    s.now clock ≤ (s.act op).now clock ↔ s.now clock + s.moved clock op < 2 ^ 64 := by
  have hnow := s.now_lt clock
  have hmoved := s.moved_lt clock op
  rw [now_act]
  omega

theorem readings_cons (op : TimingOp) (ops : List TimingOp) :
    s.readings clock (op :: ops) = s.now clock :: (s.act op).readings clock ops := by
  rw [readings, List.scanl_cons, List.map_cons, readings]

theorem head?_readings (ops : List TimingOp) : (s.readings clock ops).head? = some (s.now clock) := by
  rw [readings, List.head?_map, List.head?_scanl, Option.map_some]

/-- Readings never go back exactly as long as the total fits. -/
theorem isChain_readings_iff (ops : List TimingOp) :
    (s.readings clock ops).IsChain (· ≤ ·) ↔ s.now clock + s.total clock ops < 2 ^ 64 := by
  induction ops generalizing s with
  | nil => exact iff_of_true (.singleton _) (s.now_lt clock)
  | cons op ops ih =>
    have hact := s.now_act clock op
    have hforward := s.now_le_now_act_iff clock op
    rw [readings_cons, List.isChain_cons, head?_readings, ih (s.act op), total]
    simp only [Option.mem_def, Option.some.injEq, forall_eq', hforward]
    -- Where the first operation fits, what is left is to fit on top of it.
    constructor
    · rintro ⟨hfirst, hrest⟩
      rw [hact, Nat.mod_eq_of_lt hfirst] at hrest
      omega
    · intro hfits
      have hfirst : s.now clock + s.moved clock op < 2 ^ 64 := by omega
      rw [hact, Nat.mod_eq_of_lt hfirst]
      exact ⟨hfirst, by omega⟩

/-- A timeline that fits into 64 bits does not go back. -/
theorem now_le_now_run {ops : List TimingOp} (h : s.now clock + s.total clock ops < 2 ^ 64) :
    s.now clock ≤ (s.run ops).now clock := by
  rw [now_run, Nat.mod_eq_of_lt h]
  exact Nat.le_add_right ..

/-! ### Verdicts -/

/-- Let a probe, asked at the reading of this timeline, find that the transaction of its worker takes longer
than the timeout. If that transaction goes on with that timeout, then whoever asks is told so at the reading
after some operations, too. -/
def VerdictStands (timeout : WorkerRef → Option Nat) (ops : List TimingOp) : Prop :=
  ∀ ref, (s.watch.workers ref).clock = clock →
    (∀ step ∈ s.watched ops, step.Retains ref (timeout ref)) →
    ∀ index probe, s.watch.probes[index]? = some ref → s.watch.probe? index = some probe →
    probe.isStalled (s.now clock) = true →
    (s.run ops).watch.Shows ref fun probe ↦ probe.isStalled ((s.run ops).now clock) = true

/-- Verdicts stand as long as the timeline does not go back. -/
theorem verdictStands_of_le {origins : WorkerRef → WorkerOrigin} {running timeout : WorkerRef → Option Nat}
    (hkeeps : ∀ ref, Watch.Keeps (origins ref) (running ref) (timeout ref) (s.watch.workers ref))
    {ops : List TimingOp} (hle : s.now clock ≤ (s.run ops).now clock) :
    s.VerdictStands clock timeout ops := by
  intro ref _ hretains index probe hindex hprobe hstalled
  have hbefore := hkeeps ref
  have hafter := hbefore.of_retains hretains
  rw [← watch_run] at hafter
  -- Whichever probe it was, it went by the record of the worker.
  rw [Watch.probe?, hindex, Option.map_some, Option.some.injEq] at hprobe
  subst hprobe
  exact Watch.shows_of (Probe.isStalled_of_le hstalled (hafter.started.trans hbefore.started.symm)
    (hafter.timeout.unique hbefore.timeout) hle)

/-- What is to be expected of a timeline while operations are done. -/
structure Steady (timeout : WorkerRef → Option Nat) (ops : List TimingOp) : Prop where
  kept : s.handles <+: (s.run ops).handles
  /-- All clocks on the timeline show all that it was moved by through any of them, in 64 bits. -/
  reading : ∀ handle, (s.run ops).handles[handle]? = some clock →
    (s.run ops).reading? handle = some ((s.now clock + s.total clock ops) % 2 ^ 64)
  forward_iff : (s.readings clock ops).IsChain (· ≤ ·) ↔ s.now clock + s.total clock ops < 2 ^ 64
  stands : s.now clock + s.total clock ops < 2 ^ 64 → s.VerdictStands clock timeout ops

/-- **Timelines go forward as long as there are numbers.** Whatever was done with clocks, workers and probes,
from then on the readings of a timeline never go back exactly as long as it is moved by no more than what
64 bits hold. Until then, a transaction that was found to take longer than its timeout is found so ever
after. -/
theorem steady_run (origins : WorkerRef → WorkerOrigin) (handles : List ClockRef)
    (before after : List TimingOp) (clock : ClockRef) :
    ((new origins handles).run before).Steady clock
      (fun ref ↦ WatchStep.lastTimeout (origins ref).settings.transactionTimeout? ref
        ((new origins handles).watched before)) after where
  kept := handles_run ..
  reading handle hhandle := by rw [reading?, hhandle, Option.map_some, now_run]
  forward_iff := isChain_readings_iff ..
  stands hfits := by
    have hkeeps := Watch.keeps_run origins ((new origins handles).watched before)
    have hworkers : ((new origins handles).run before).watch =
      (Watch.new origins).run ((new origins handles).watched before) := watch_run ..
    rw [← hworkers] at hkeeps
    exact verdictStands_of_le _ _ hkeeps (now_le_now_run _ _ hfits)

/-- A worker that was made before its clock was moved. -/
def made0 (_ : WorkerRef) : WorkerOrigin :=
  ⟨"worker", {}, ⟨0⟩, 0, .new 0 0⟩

/-- A probe is handed out, the timeout set to 5, and a transaction begun. Then the clock is moved on by the
longest step. -/
def busy : List TimingOp :=
  [.watch (.handOut ⟨0⟩), .watch (.work ⟨0⟩ (.alter (.setTimeout (some 5)))), .watch (.work ⟨0⟩ .begin),
    .advance 0 (2 ^ 64 - 1)]

/-- It is not so that readings never go back, nor that verdicts always stand. One more nanosecond takes the
clock back to its origin, when no time had passed since the transaction began. -/
theorem not_forall_forward :
    (¬ ∀ (origins : WorkerRef → WorkerOrigin) (handles : List ClockRef) (ops : List TimingOp)
      (clock : ClockRef), ((new origins handles).readings clock ops).IsChain (· ≤ ·)) ∧
    ¬ ∀ (origins : WorkerRef → WorkerOrigin) (handles : List ClockRef) (before after : List TimingOp)
      (clock : ClockRef), (∀ ref, (origins ref).made = 0) →
        ((new origins handles).run before).VerdictStands clock
          (fun ref ↦ WatchStep.lastTimeout (origins ref).settings.transactionTimeout? ref
            ((new origins handles).watched before)) after := by
  constructor
  · intro h
    exact absurd (h made0 [⟨0⟩] [.advance 0 (2 ^ 64 - 1), .advance 0 1] ⟨0⟩) (by decide)
  · intro h
    have hstands := h made0 [⟨0⟩] busy [.advance 0 1] ⟨0⟩ (fun _ ↦ rfl) ⟨0⟩ rfl nofun 0 _ rfl rfl
      (by decide)
    exact absurd hstands.1 (by decide)

end Timing

end Conduit
