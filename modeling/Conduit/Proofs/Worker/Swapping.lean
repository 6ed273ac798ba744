import Conduit.Proofs.Worker.Units

/-!
# Workers that are put in and taken out

The place for a worker on a thread can be given another worker at any time, also inside of a unit of
work. A unit is announced to the worker that is there when it begins, and its end is told to the worker
that is there when it ends. Nothing makes these the same.

What a worker shows goes by what it was told (`SwapMoment.Shows`): it counts the beginnings less the ends,
its transaction lasts while it counts any, and the end of a unit leaves all other workers as they are. As
long as no worker was told the end of a unit that began on another, the count is that of the units in
progress that began on it, and of those that have ended without its being told. So the outermost unit
leaves a worker idle when, and only when, every unit that began on it has ended on it.
-/

namespace Conduit

/-! ### What a worker does when it is told -/

namespace Worker

/-- A worker whose transaction lasts while it counts any units. -/
structure Coherent (worker : Worker) : Prop where
  started : worker.probe.startedAt? = none ↔ worker.unitDepth = 0
  sound : worker.attributes.Sound

variable {worker : Worker}

/-- A worker that is told that a unit begins has a transaction from then on, or has one already. -/
theorem Coherent.enterUnit (h : worker.Coherent) (now : Nat) : (worker.enterUnit now).Coherent := by
  have hcounts : (worker.enterUnit now).unitDepth ≠ 0 := by
    rw [unitDepth_enterUnit]
    exact Nat.succ_ne_zero _
  refine ⟨iff_of_false ?_ hcounts, (enterUnit_attributes worker now).symm ▸ h.sound⟩
  by_cases hidle : worker.unitDepth = 0
  · rw [Worker.enterUnit, if_pos hidle]
    show (worker.probe.begin now).startedAt? ≠ none
    rw [Probe.startedAt?_begin]
    exact Option.some_ne_none _
  · rw [Worker.enterUnit, if_neg hidle]
    exact fun hstarted ↦ hidle (h.started.1 hstarted)

theorem Coherent.leaveUnit (h : worker.Coherent) : worker.leaveUnit.Coherent := by
  by_cases hone : worker.unitDepth ≤ 1
  · rw [leaveUnit_of_le_one hone]
    exact ⟨iff_of_true rfl rfl, h.sound.blank_clear.sound⟩
  · rw [leaveUnit_of_one_lt (Nat.lt_of_not_le hone)]
    refine ⟨iff_of_false (fun hstarted ↦ ?_) (by show worker.unitDepth - 1 ≠ 0; omega), h.sound⟩
    have hzero := h.started.1 hstarted
    omega

/-- With its outermost unit a worker loses its attributes. -/
theorem Coherent.blank_leaveUnit (h : worker.Coherent) (hdepth : worker.leaveUnit.unitDepth = 0) :
    worker.leaveUnit.attributes.Blank := by
  rw [unitDepth_leaveUnit] at hdepth
  rw [leaveUnit_of_le_one (by omega)]
  exact h.sound.blank_clear

/-- What is done to a worker otherwise does not change how many units it counts. -/
theorem unitDepth_perform (worker : Worker) (op : WorkerOp) :
    (op.perform worker).unitDepth = worker.unitDepth := by
  cases op <;> rfl

theorem Coherent.perform (h : worker.Coherent) (op : WorkerOp) : (op.perform worker).Coherent := by
  cases op with
  | attributes edit => exact ⟨h.started, edit.sound _ h.sound⟩
  | _ => exact ⟨h.started, h.sound⟩

end Worker

theorem IdleWorker.coherent (idle : IdleWorker) : idle.worker.Coherent :=
  ⟨iff_of_true idle.started idle.unitDepth, idle.sound⟩

/-! ### The world -/

/-- What is around, and is not the business of the workers. -/
structure SwapEnv (U : Type) where
  /-- What the clocks show. -/
  now : ClockRef → Nat
  /-- Whatever else there is. -/
  user : U

/-- What happens on a thread. -/
inductive SwapEvent where
  /-- Something happened that is not the business of the workers. -/
  | around
  /-- A worker was changed by the one who had it. -/
  | altered (ref : WorkerRef) (op : WorkerOp)
  /-- Another worker was put in the place, or none, if that was possible. -/
  | swapped (answer : Except Panic (Option WorkerRef))
  /-- The body of a unit of work begins, and so much was announced to a worker, if there was one. -/
  | began (entered : Option WorkerRef)
  /-- A unit of work has ended that began on one worker, and its end was told to another, or the same. -/
  | ended (entered told : Option WorkerRef)

/-- What happened, and how things are right after. -/
structure SwapMoment where
  /-- What happened. -/
  event : SwapEvent
  /-- The place for a worker. -/
  slot : WorkerSlot
  /-- The workers. -/
  workers : WorkerRef → Worker
  /-- The units in progress, the innermost first, each by the worker that it began on. -/
  units : List (Option WorkerRef)

/-- The state in which programs run. -/
structure SwapWorld (U : Type) where
  /-- The place for a worker on the thread. -/
  slot : WorkerSlot
  /-- The workers. -/
  workers : WorkerRef → Worker
  /-- What is around. -/
  env : SwapEnv U
  /-- The units in progress, the innermost first, each by the worker that it began on. -/
  units : List (Option WorkerRef) := []
  /-- What has happened, the last first. -/
  history : List SwapMoment := []

namespace SwapWorld

variable {U A : Type}

/-- Adds to the history that something has happened. -/
def note (w : SwapWorld U) (event : SwapEvent) : SwapWorld U :=
  { w with history := ⟨event, w.slot, w.workers, w.units⟩ :: w.history }

/-- The world inside of a further unit. -/
def push (w : SwapWorld U) (entered : Option WorkerRef) : SwapWorld U :=
  { w with units := entered :: w.units }

/-- The world outside of the innermost unit. -/
def pop (w : SwapWorld U) : SwapWorld U :=
  { w with units := w.units.tail }

/-- The thread. -/
def host : WorkerHost (SwapWorld U) where
  slot :=
    { read := fun w ↦ w.slot
      write := fun slot w ↦ { w with slot } }
  worker ref :=
    { read := fun w ↦ w.workers ref
      write := fun worker w ↦ { w with workers := Function.update w.workers ref worker } }
  now clock w := w.env.now clock

/-- Changes what is around. -/
def around (change : SwapEnv U → SwapEnv U) (w : SwapWorld U) : SwapWorld U :=
  { w with env := change w.env }.note .around

/-- Changes a worker. One that is in its place has to be borrowed for that, and others belong to those
who took them out. -/
def alter (ref : WorkerRef) (op : WorkerOp) : StateM (SwapWorld U) Bool := fun w ↦
  if w.slot = ⟨some ref, false⟩ then (false, w)
  else (true, { w with workers := Function.update w.workers ref (op.perform (w.workers ref)) }.note
    (.altered ref op))

/-- Puts a worker in the place. -/
def install (ref : WorkerRef) : StateM (SwapWorld U) (Except Panic (Option WorkerRef)) := fun w ↦
  let (answer, w) := host.install ref w
  (answer, w.note (.swapped answer))

/-- Takes the worker out of the place. -/
def uninstall : StateM (SwapWorld U) (Except Panic (Option WorkerRef)) := fun w ↦
  let (answer, w) := host.uninstall w
  (answer, w.note (.swapped answer))

/-- Runs a unit of work. -/
def unit (body : StateM (SwapWorld U) A) : StateM (SwapWorld U) A := fun w ↦
  let entered := w.slot.free?
  let (answer, w) := host.runUnit (fun w ↦ body ((w.push entered).note (.began entered))) w
  (answer, w.pop.note (.ended entered (entered.bind fun _ ↦ w.slot.free?)))

end SwapWorld

/-- What runs on a thread. -/
inductive SwapProgram (U : Type) where
  /-- End; a body may return or panic. -/
  | done (answer : Except Panic U)
  /-- Look at everything, and change what is not the business of the workers. -/
  | around (change : SwapEnv U → SwapEnv U)
      (next : (WorkerRef → Worker) → SwapEnv U → SwapProgram U)
  /-- Change a worker, which has to be at hand. -/
  | alter (ref : WorkerRef) (op : WorkerOp) (next : Bool → SwapProgram U)
  /-- Put a worker in the place. -/
  | install (ref : WorkerRef) (next : Except Panic (Option WorkerRef) → SwapProgram U)
  /-- Take the worker out of the place. -/
  | uninstall (next : Except Panic (Option WorkerRef) → SwapProgram U)
  /-- Run a unit of work. -/
  | unit (body : SwapProgram U) (next : Except Panic U → SwapProgram U)
  /-- Run a body with the worker at hand. -/
  | access (body : WorkerRef → SwapProgram U) (next : Option (Except Panic U) → SwapProgram U)

/-- Runs a program. -/
def SwapProgram.run {U : Type} : SwapProgram U → StateM (SwapWorld U) (Except Panic U)
  | .done answer => pure answer
  | .around change next => fun w ↦ (next w.workers w.env).run (w.around change)
  | .alter ref op next => fun w ↦
    let (altered, w) := SwapWorld.alter ref op w
    (next altered).run w
  | .install ref next => fun w ↦
    let (answer, w) := SwapWorld.install ref w
    (next answer).run w
  | .uninstall next => fun w ↦
    let (answer, w) := SwapWorld.uninstall w
    (next answer).run w
  | .unit body next => fun w ↦
    let (answer, w) := SwapWorld.unit body.run w
    (next answer).run w
  | .access body next => fun w ↦
    let (answer, w) := SwapWorld.host.withCurrent (fun ref ↦ (body ref).run) w
    (next answer).run w

/-! ### What a worker shows -/

namespace SwapEvent

/-- A unit that began on a worker has ended, and the worker was not told. -/
def strays (ref : WorkerRef) : SwapEvent → Bool
  | ended entered told => entered = some ref && told ≠ some ref
  | _ => false

/-- A worker was told the end of a unit that did not begin on it. -/
def intrudes (ref : WorkerRef) : SwapEvent → Bool
  | ended entered told => entered ≠ some ref && told = some ref
  | _ => false

/-- What a worker counts after an event. -/
def count (ref : WorkerRef) (depth : Nat) : SwapEvent → Nat
  | began entered => if entered = some ref then depth + 1 else depth
  | ended _ told => if told = some ref then depth - 1 else depth
  | _ => depth

end SwapEvent

namespace SwapMoment

variable (ref : WorkerRef) (found : Worker)

/-- The worker after what has happened; it was `found` like that in the beginning. -/
def latest : List SwapMoment → Worker
  | [] => found
  | moment :: _ => moment.workers ref

/-- How many units a worker counts that knows of what it was told. -/
def depth : List SwapMoment → Nat
  | [] => 0
  | moment :: earlier => moment.event.count ref (depth earlier)

/-- How many units that began on the worker have ended without its being told. -/
def strayed (history : List SwapMoment) : Nat :=
  history.countP fun moment ↦ moment.event.strays ref

/-- The worker was only told the ends of units that had begun on it. -/
def Undisturbed (history : List SwapMoment) : Prop :=
  ∀ moment ∈ history, moment.event.intrudes ref = false

/-- A worker is idle, and nothing is left of its last transaction. -/
structure Settled (worker : Worker) : Prop where
  unitDepth : worker.unitDepth = 0
  started : worker.probe.startedAt? = none
  attributes : worker.attributes.Blank

/-- What the end of a unit does to a worker. -/
def Ends (moment : SwapMoment) (earlier : List SwapMoment) : Prop :=
  match moment.event with
  | .ended entered told =>
    told = entered.bind (fun _ ↦ moment.slot.installed) ∧
      moment.workers ref =
        if told = some ref then (latest ref found earlier).leaveUnit else latest ref found earlier
  | _ => True

/-- What the worker shows at a moment. -/
structure Shows (moment : SwapMoment) (earlier : List SwapMoment) : Prop where
  /-- It counts what it was told. -/
  unitDepth : (moment.workers ref).unitDepth = depth ref (moment :: earlier)
  /-- Its transaction lasts while it counts any units. -/
  started : (moment.workers ref).probe.startedAt? = none ↔ (moment.workers ref).unitDepth = 0
  /-- The end of a unit is told to the worker in the place, and leaves the others as they are. -/
  ends : moment.Ends ref found earlier
  /-- What it counts are the units in progress, and those of whose ends it was not told. -/
  counted : Undisturbed ref (moment :: earlier) →
    (moment.workers ref).unitDepth = moment.units.count (some ref) + strayed ref (moment :: earlier)
  /-- The outermost unit that began on it has settled it when none has ended without its being told. -/
  settled : ∀ told, moment.event = .ended (some ref) told → some ref ∉ moment.units →
    Undisturbed ref (moment :: earlier) →
      (Settled (moment.workers ref) ↔ strayed ref (moment :: earlier) = 0)

/-- What the worker shows at all moments of a history. -/
def Account : List SwapMoment → Prop
  | [] => True
  | moment :: earlier => moment.Shows ref found earlier ∧ Account earlier

end SwapMoment

namespace SwapWorld

open SwapMoment

variable {U A : Type} {ref : WorkerRef} {found : Worker} {w w' w'' : SwapWorld U}

/-- A thread with a place for a worker, where nothing has happened. -/
def fresh (installed : Option WorkerRef) (workers : WorkerRef → IdleWorker) (env : SwapEnv U) :
    SwapWorld U where
  slot := { installed }
  workers other := (workers other).worker
  env

/-- What holds of a worker whenever a program goes on. -/
structure Kept (ref : WorkerRef) (found : Worker) (w : SwapWorld U) : Prop where
  coherent : (w.workers ref).Coherent
  unitDepth : (w.workers ref).unitDepth = depth ref w.history
  counted : Undisturbed ref w.history →
    depth ref w.history = w.units.count (some ref) + strayed ref w.history
  current : latest ref found w.history = w.workers ref
  account : Account ref found w.history

/-- What a program leaves behind: the units that it ran have ended, and so have its accesses. -/
structure Onto (ref : WorkerRef) (found : Worker) (w w' : SwapWorld U) : Prop where
  kept : w'.Kept ref found
  units : w'.units = w.units
  borrowed : w'.slot.borrowed = w.slot.borrowed

/-- An action after which everything is accounted for, if it was before. -/
def Keeps (ref : WorkerRef) (found : Worker) (action : StateM (SwapWorld U) A) : Prop :=
  ∀ w : SwapWorld U, w.Kept ref found → w.Onto ref found (action w).2

theorem Kept.onto (h : w.Kept ref found) : w.Onto ref found w :=
  ⟨h, rfl, rfl⟩

theorem Onto.trans (h : w.Onto ref found w') (h' : w'.Onto ref found w'') : w.Onto ref found w'' :=
  ⟨h'.kept, h'.units.trans h.units, h'.borrowed.trans h.borrowed⟩

/-- A history is undisturbed when no moment of it is an intrusion. -/
theorem undisturbed_cons {moment : SwapMoment} {history : List SwapMoment} :
    Undisturbed ref (moment :: history) ↔
      moment.event.intrudes ref = false ∧ Undisturbed ref history :=
  List.forall_mem_cons

theorem strayed_cons (moment : SwapMoment) (history : List SwapMoment) :
    strayed ref (moment :: history) =
      strayed ref history + if moment.event.strays ref then 1 else 0 :=
  List.countP_cons

/-- Something is noted that has changed the worker, or has not. -/
theorem kept_note {event : SwapEvent} (hlatest : (latest ref found w.history).Coherent)
    (hcoherent : (w.workers ref).Coherent)
    (hdepth : (w.workers ref).unitDepth = event.count ref (depth ref w.history))
    (hends : Ends ref found ⟨event, w.slot, w.workers, w.units⟩ w.history)
    (hcounted : event.intrudes ref = false → Undisturbed ref w.history →
      (w.workers ref).unitDepth = w.units.count (some ref) +
        (strayed ref w.history + if event.strays ref then 1 else 0))
    (haccount : Account ref found w.history) : (w.note event).Kept ref found := by
  have hcounts : Undisturbed ref (⟨event, w.slot, w.workers, w.units⟩ :: w.history) →
      (w.workers ref).unitDepth = w.units.count (some ref) +
        strayed ref (⟨event, w.slot, w.workers, w.units⟩ :: w.history) := by
    intro hundisturbed
    obtain ⟨hintrudes, hbefore⟩ := undisturbed_cons.1 hundisturbed
    rw [strayed_cons]
    exact hcounted hintrudes hbefore
  refine ⟨hcoherent, hdepth, fun h ↦ hdepth.symm.trans (hcounts h), rfl,
    ⟨hdepth, hcoherent.started, hends, hcounts, ?_⟩, haccount⟩
  rintro told rfl houtermost hundisturbed
  have hcount := hcounts hundisturbed
  rw [List.count_eq_zero_of_not_mem houtermost, Nat.zero_add] at hcount
  refine ⟨fun hsettled ↦ hcount.symm.trans hsettled.unitDepth, fun hstrayed ↦ ?_⟩
  have hzero : (w.workers ref).unitDepth = 0 := hcount.trans hstrayed
  -- No unit strayed, so this one did not either: its end was told to the worker.
  have htold : told = some ref := by
    by_contra hother
    rw [strayed_cons, if_pos (by simp [SwapEvent.strays, hother])] at hstrayed
    omega
  have hleft : w.workers ref = (latest ref found w.history).leaveUnit := hends.2.trans (if_pos htold)
  have hblank : (w.workers ref).attributes.Blank := by
    rw [hleft] at hzero ⊢
    exact hlatest.blank_leaveUnit hzero
  exact ⟨hzero, hcoherent.started.2 hzero, hblank⟩

/-- Something is noted that is not about units. -/
theorem Kept.onto_note {event : SwapEvent} (h : w.Kept ref found) (w' : SwapWorld U)
    (hcoherent : (w'.workers ref).Coherent)
    (hdepth : (w'.workers ref).unitDepth = (w.workers ref).unitDepth) (hunits : w'.units = w.units)
    (hhistory : w'.history = w.history) (hborrowed : w'.slot.borrowed = w.slot.borrowed)
    (hcount : ∀ d, event.count ref d = d) (hstrays : event.strays ref = false)
    (hends : Ends ref found ⟨event, w'.slot, w'.workers, w'.units⟩ w'.history) :
    w.Onto ref found (w'.note event) := by
  refine ⟨kept_note ?_ hcoherent ?_ hends ?_ ?_, hunits, hborrowed⟩
  · rw [hhistory, h.current]
    exact h.coherent
  · rw [hdepth, hcount, hhistory, h.unitDepth]
  · intro _ hundisturbed
    rw [hhistory] at hundisturbed ⊢
    rw [hstrays, hunits, hdepth, h.unitDepth]
    exact h.counted hundisturbed
  · rw [hhistory]
    exact h.account

/-! ### Units of work -/

/-- A change is told to a worker, if there is one to tell. -/
def tell (w : SwapWorld U) (told : Option WorkerRef) (change : Worker → Worker) : SwapWorld U :=
  { w with workers := fun ref ↦ if told = some ref then change (w.workers ref) else w.workers ref }

/-- Only a worker that can be borrowed is changed, and the caller is told whether there was one. -/
theorem changeCurrent_eq (change : SwapWorld U → Worker → Worker) (w : SwapWorld U) :
    host.changeCurrent change w = (w.slot.free?.isSome, w.tell w.slot.free? (change w)) := by
  have hread : host.slot.read w = w.slot := rfl
  simp only [WorkerHost.changeCurrent, bind, StateT.bind, Cell.get, hread]
  cases w.slot.free? with
  | none => rfl
  | some ref =>
    have hupdate : Function.update w.workers ref (change w (w.workers ref)) =
        fun other ↦ if some ref = some other then change w (w.workers other) else w.workers other := by
      funext other
      by_cases hsame : other = ref
      · subst hsame
        simp
      · simp [hsame, Ne.symm hsame]
    exact congrArg (fun workers ↦ (true, { w with workers })) hupdate

/-- A unit enters the worker that it finds, and leaves the one that is installed when it is over. -/
theorem runUnit_eq (body : StateM (SwapWorld U) A) (w : SwapWorld U) :
    host.runUnit body w =
      let ran := body (w.tell w.slot.free? fun worker ↦ worker.enterUnit (w.env.now worker.clock))
      (ran.1, ran.2.tell (w.slot.free?.bind fun _ ↦ ran.2.slot.free?) Worker.leaveUnit) := by
  simp only [WorkerHost.runUnit, bind, StateT.bind, changeCurrent_eq]
  cases w.slot.free? with
  | none => rfl
  | some ref =>
    show (_, (host.changeCurrent _ _).2) = _
    rw [changeCurrent_eq]
    rfl

/-- A unit has begun, on the worker that it found. -/
theorem Kept.began (h : w.Kept ref found) (entered : Option WorkerRef) (now : Worker → Nat) :
    (((w.tell entered fun worker ↦ worker.enterUnit (now worker)).push entered).note
      (.began entered)).Kept ref found := by
  have hlatest : (latest ref found w.history).Coherent := h.current ▸ h.coherent
  by_cases hentered : entered = some ref
  · have hworker : (w.tell entered fun worker ↦ worker.enterUnit (now worker)).workers ref =
        (w.workers ref).enterUnit (now (w.workers ref)) := if_pos hentered
    have hdepth : ((w.tell entered fun worker ↦ worker.enterUnit (now worker)).workers ref).unitDepth =
        depth ref w.history + 1 := by
      rw [hworker, Worker.unitDepth_enterUnit, h.unitDepth]
    refine kept_note hlatest (hworker ▸ h.coherent.enterUnit _) (hdepth.trans (if_pos hentered).symm)
      trivial (fun _ hundisturbed ↦ hdepth.trans ?_) h.account
    show _ = (entered :: w.units).count (some ref) + _
    rw [h.counted hundisturbed, hentered, List.count_cons_self]
    exact Nat.add_right_comm ..
  · have hworker : (w.tell entered fun worker ↦ worker.enterUnit (now worker)).workers ref =
        w.workers ref := if_neg hentered
    have hdepth : ((w.tell entered fun worker ↦ worker.enterUnit (now worker)).workers ref).unitDepth =
        depth ref w.history := by
      rw [hworker, h.unitDepth]
    refine kept_note hlatest (hworker ▸ h.coherent) (hdepth.trans (if_neg hentered).symm)
      trivial (fun _ hundisturbed ↦ hdepth.trans ?_) h.account
    show _ = (entered :: w.units).count (some ref) + _
    rw [h.counted hundisturbed, List.count_cons_of_ne hentered]
    rfl

/-- A unit has ended, and has told the worker that is installed then. -/
theorem Kept.ended {entered told : Option WorkerRef} {outer : List (Option WorkerRef)}
    (h : w.Kept ref found) (hunits : w.units = entered :: outer)
    (htold : told = entered.bind fun _ ↦ w.slot.installed) :
    ((w.tell told Worker.leaveUnit).pop.note (.ended entered told)).Kept ref found := by
  have hlatest : (latest ref found w.history).Coherent := h.current ▸ h.coherent
  have hpop : (w.tell told Worker.leaveUnit).pop.units = outer := congrArg List.tail hunits
  have hhistory : (w.tell told Worker.leaveUnit).pop.history = w.history := rfl
  have hends : Ends ref found ⟨.ended entered told, w.slot, (w.tell told Worker.leaveUnit).workers,
      w.units.tail⟩ w.history := by
    refine ⟨htold, ?_⟩
    rw [h.current]
    rfl
  by_cases hself : told = some ref
  · have hworker : (w.tell told Worker.leaveUnit).workers ref = (w.workers ref).leaveUnit :=
      if_pos hself
    have hdepth : ((w.tell told Worker.leaveUnit).workers ref).unitDepth = depth ref w.history - 1 := by
      rw [hworker, Worker.unitDepth_leaveUnit, h.unitDepth]
    refine kept_note hlatest (hworker ▸ h.coherent.leaveUnit) (hdepth.trans (if_pos hself).symm)
      hends (fun hintrudes hundisturbed ↦ hdepth.trans ?_) h.account
    -- The unit began on the worker, or else the worker is disturbed now.
    have hentered : entered = some ref := by
      by_contra hother
      simp [SwapEvent.intrudes, hother, hself] at hintrudes
    have hstrays : SwapEvent.strays ref (.ended entered told) = false := by
      simp [SwapEvent.strays, hself]
    rw [hpop, hhistory, hstrays, h.counted hundisturbed, hunits, hentered, List.count_cons_self,
      if_neg Bool.false_ne_true]
    omega
  · have hworker : (w.tell told Worker.leaveUnit).workers ref = w.workers ref := if_neg hself
    have hdepth : ((w.tell told Worker.leaveUnit).workers ref).unitDepth = depth ref w.history := by
      rw [hworker, h.unitDepth]
    refine kept_note hlatest (hworker ▸ h.coherent) (hdepth.trans (if_neg hself).symm)
      hends (fun _ hundisturbed ↦ hdepth.trans ?_) h.account
    by_cases hentered : entered = some ref
    · have hstrays : SwapEvent.strays ref (.ended entered told) = true := by
        simp [SwapEvent.strays, hentered, hself]
      rw [hpop, hhistory, hstrays, h.counted hundisturbed, hunits, hentered, List.count_cons_self,
        if_pos rfl]
      omega
    · have hstrays : SwapEvent.strays ref (.ended entered told) = false := by
        simp [SwapEvent.strays, hentered]
      rw [hpop, hhistory, hstrays, h.counted hundisturbed, hunits, List.count_cons_of_ne hentered,
        if_neg Bool.false_ne_true]
      rfl

/-- **A unit of work keeps the books of a worker**, whichever workers it finds installed. -/
theorem keeps_unit {body : StateM (SwapWorld U) A} (hbody : Keeps ref found body) :
    Keeps ref found (unit body) := by
  intro w hw
  have hran := hbody _ (hw.began w.slot.free? fun worker ↦ w.env.now worker.clock)
  simp only [unit, runUnit_eq]
  generalize body _ = ran at hran ⊢
  have htold : (w.slot.free?.bind fun _ ↦ ran.2.slot.free?) =
      w.slot.free?.bind fun _ ↦ ran.2.slot.installed := by
    cases hborrowed : w.slot.borrowed with
    | true => simp [WorkerSlot.free?, hborrowed]
    | false => simp [WorkerSlot.free?, hran.borrowed.trans hborrowed]
  refine ⟨?_, congrArg List.tail hran.units, hran.borrowed⟩
  simp only [tell, htold]
  exact hran.kept.ended hran.units rfl

/-! ### The other things that a program does -/

/-- So does a change to a worker at hand. -/
theorem keeps_alter (other : WorkerRef) (op : WorkerOp) :
    Keeps ref found (alter other op : StateM (SwapWorld U) Bool) := by
  intro w hw
  unfold alter
  split
  · exact hw.onto
  · have hworker : Function.update w.workers other (op.perform (w.workers other)) ref =
        if ref = other then op.perform (w.workers ref) else w.workers ref := by
      rw [Function.update_apply]
      split
      · next hsame => rw [hsame]
      · rfl
    refine hw.onto_note _ ?_ ?_ rfl rfl rfl (fun _ ↦ rfl) rfl trivial
    · show (Function.update w.workers other _ ref).Coherent
      rw [hworker]
      split
      · exact hw.coherent.perform op
      · exact hw.coherent
    · show (Function.update w.workers other _ ref).unitDepth = _
      rw [hworker]
      split
      · exact Worker.unitDepth_perform ..
      · rfl

theorem keeps_around (change : SwapEnv U → SwapEnv U) (hw : w.Kept ref found) :
    w.Onto ref found (w.around change) :=
  hw.onto_note { w with env := change w.env } hw.coherent rfl rfl rfl rfl (fun _ ↦ rfl) rfl trivial

theorem borrowed_replace (worker : Option WorkerRef) (slot : WorkerSlot) :
    (WorkerSlot.replace worker slot).2.borrowed = slot.borrowed := by
  simp only [WorkerSlot.replace, bind, StateT.bind, get, getThe, MonadStateOf.get, StateT.get, pure]
  split <;> rfl

theorem keeps_install (other : WorkerRef) :
    Keeps ref found (install other : StateM (SwapWorld U) (Except Panic (Option WorkerRef))) :=
  fun w hw ↦ hw.onto_note (host.install other w).2 hw.coherent rfl rfl rfl
    (borrowed_replace (some other) w.slot) (fun _ ↦ rfl) rfl trivial

theorem keeps_uninstall :
    Keeps ref found (uninstall : StateM (SwapWorld U) (Except Panic (Option WorkerRef))) :=
  fun w hw ↦ hw.onto_note (host.uninstall w).2 hw.coherent rfl rfl rfl
    (borrowed_replace none w.slot) (fun _ ↦ rfl) rfl trivial

theorem Kept.slot (h : w.Kept ref found) (slot : WorkerSlot) :
    ({ w with slot } : SwapWorld U).Kept ref found :=
  ⟨h.coherent, h.unitDepth, h.counted, h.current, h.account⟩

/-- An access keeps the books if its body does. -/
theorem keeps_access {body : WorkerRef → StateM (SwapWorld U) A}
    (hbody : ∀ other, Keeps ref found (body other)) : Keeps ref found (host.withCurrent body) := by
  intro w hw
  have hread : host.slot.read w = w.slot := rfl
  simp only [WorkerHost.withCurrent, bind, StateT.bind, Cell.get, hread]
  cases hfree : w.slot.free? with
  | none => exact hw.onto
  | some other =>
    have hborrowed : w.slot.borrowed = false := by
      by_contra hborrowed
      simp [WorkerSlot.free?, hborrowed] at hfree
    have hran := hbody other _ (hw.slot { w.slot with borrowed := true })
    exact ⟨hran.kept.slot _, hran.units, hborrowed.symm⟩

/-! ### Programs -/

/-- A program keeps the books of every worker, by induction over the program. -/
theorem keeps_program (program : SwapProgram U) : Keeps ref found program.run := by
  induction program with
  | done answer => exact fun w hw ↦ hw.onto
  | around change next ih =>
    intro w hw
    have hchanged := keeps_around change hw
    exact hchanged.trans (ih w.workers w.env _ hchanged.kept)
  | alter other op next ih =>
    intro w hw
    have haltered := keeps_alter other op w hw
    exact haltered.trans (ih _ _ haltered.kept)
  | install other next ih =>
    intro w hw
    have hinstalled := keeps_install other w hw
    exact hinstalled.trans (ih _ _ hinstalled.kept)
  | uninstall next ih =>
    intro w hw
    have huninstalled := keeps_uninstall w hw
    exact huninstalled.trans (ih _ _ huninstalled.kept)
  | unit body next ihBody ihNext =>
    intro w hw
    have hran := keeps_unit ihBody w hw
    exact hran.trans (ihNext _ _ hran.kept)
  | access body next ihBody ihNext =>
    intro w hw
    have hran := keeps_access ihBody w hw
    exact hran.trans (ihNext _ _ hran.kept)

theorem kept_fresh (installed : Option WorkerRef) (workers : WorkerRef → IdleWorker) (env : SwapEnv U)
    (ref : WorkerRef) : (fresh installed workers env).Kept ref (workers ref).worker :=
  ⟨(workers ref).coherent, (workers ref).unitDepth, fun _ ↦ rfl, rfl, trivial⟩

/-- What a program leaves behind on a thread. -/
structure Accounted (found : WorkerRef → Worker) (w : SwapWorld U) : Prop where
  /-- Every worker showed at all moments what it has to show. -/
  account : ∀ ref, Account ref (found ref) w.history
  /-- No unit is in progress any more. -/
  units : w.units = []
  /-- The worker in the place can be borrowed. -/
  borrowed : w.slot.borrowed = false

end SwapWorld

/-- **Units of work and workers that come and go.** Whatever a program does on a thread, and whichever
workers it puts in and takes out on the way, a worker goes by what it was told. The end of a unit is told
to the worker in the place, and no other one changes. When the outermost unit that began on a worker has
ended, and the worker was not told the end of any other unit, then it is idle and without attributes
just when it was told the ends of all units that had begun on it. -/
theorem SwapProgram.settled_run {U : Type} (installed : Option WorkerRef)
    (workers : WorkerRef → IdleWorker) (env : SwapEnv U) (program : SwapProgram U) :
    (program.run (.fresh installed workers env)).2.Accounted fun ref ↦ (workers ref).worker := by
  have hran := fun ref ↦ SwapWorld.keeps_program program _ (SwapWorld.kept_fresh installed workers env ref)
  exact ⟨fun ref ↦ (hran ref).kept.account, (hran ⟨0⟩).units, (hran ⟨0⟩).borrowed⟩

/-- A unit of work in which the worker is taken out. -/
def SwapProgram.takeOut : SwapProgram Unit :=
  .unit (.uninstall fun _ ↦ .done (.ok ())) .done

/-- What is around when no clock has gone on. -/
def SwapEnv.early : SwapEnv Unit where
  now _ := 0
  user := ()

/-- It is not so that a worker is settled once the outermost unit that began on it has ended. A worker
that is taken out inside of the unit still counts it. -/
theorem SwapProgram.not_forall_settled :
    ¬ ∀ (U : Type) (installed : Option WorkerRef) (workers : WorkerRef → IdleWorker) (env : SwapEnv U)
      (program : SwapProgram U), ∀ moment ∈ (program.run (.fresh installed workers env)).2.history,
        ∀ ref told, moment.event = .ended (some ref) told → some ref ∉ moment.units →
          SwapMoment.Settled (moment.workers ref) := by
  intro h
  have hended := h Unit (some ⟨0⟩) (fun _ ↦ .early) .early .takeOut _ List.mem_cons_self ⟨0⟩ none rfl
    List.not_mem_nil
  exact absurd hended.unitDepth (by decide)

/-- A unit of work on one worker, and inside of it one on another worker, in which the first worker is put
back. -/
def SwapProgram.putBack (first second : WorkerRef) : SwapProgram Unit :=
  .unit (.install second fun _ ↦ .unit (.install first fun _ ↦ .done (.ok ())) .done) .done

/-- Nor is it so that the end of a unit leaves alone the workers on which it did not begin. -/
theorem SwapProgram.not_forall_untouched :
    ¬ ∀ (U : Type) (installed : Option WorkerRef) (workers : WorkerRef → IdleWorker) (env : SwapEnv U)
      (program : SwapProgram U), ∀ moment earlier, moment :: earlier <:+
        (program.run (.fresh installed workers env)).2.history →
          ∀ ref entered told, moment.event = .ended entered told → entered ≠ some ref →
            (moment.workers ref).unitDepth =
              (SwapMoment.latest ref (workers ref).worker earlier).unitDepth := by
  intro h
  have hended := h Unit (some ⟨0⟩) (fun _ ↦ .early) .early (.putBack ⟨0⟩ ⟨1⟩) _ _
    (List.suffix_cons _ _) ⟨0⟩ (some ⟨1⟩) (some ⟨0⟩) rfl (by decide)
  exact absurd hended (by decide)

end Conduit
