import Conduit.Proofs.Chain.Program
import Conduit.Worker.Basic

/-!
# Units of work and accesses, nested

Code on a thread is inside of units of work, and of bodies that have the worker of the thread at hand.
A worker counts the units in progress, but only those that were announced to it: whoever wants to
announce a unit has to borrow the worker, and inside of an access that fails. `Scope.active` takes
these out.

What is to be true of a worker is a matter of the scopes alone (`Worker.Stands`), and it is kept by
entering and leaving units and by all that may be done to a worker otherwise.
-/

namespace Conduit

/-- What code on a thread is inside of. -/
inductive Scope where
  /-- A unit of work. When it began, the clock of the worker showed `entry`. -/
  | unit (entry : Nat)
  /-- A body that has the worker at hand. -/
  | access
  deriving DecidableEq

namespace Scope

/-- The units in progress, the innermost first, each by the time at which it began. Those inside of an
access are left out. -/
def active : List Scope → List Nat
  | [] => []
  | access :: outer => active outer
  | unit entry :: outer => if access ∈ outer then active outer else entry :: active outer

variable {outer : List Scope}

/-- A unit inside of an access does not count. -/
theorem active_unit_of_mem (h : access ∈ outer) (entry : Nat) :
    active (unit entry :: outer) = active outer :=
  if_pos h

theorem active_unit_of_notMem (h : access ∉ outer) (entry : Nat) :
    active (unit entry :: outer) = entry :: active outer :=
  if_neg h

end Scope

namespace Probe

/-- The time closest to a given one that a probe can tell. The earliest one is when the probe was
made. -/
def nearest (anchor now : Nat) : Nat :=
  max anchor (min now (anchor + (unlimited - 1)))

/-- A time that a probe can tell is told exactly. -/
theorem nearest_of_le {anchor now : Nat} (h : anchor ≤ now) (hlate : now ≤ anchor + (unlimited - 1)) :
    nearest anchor now = now := by
  rw [nearest, Nat.min_eq_left hlate, Nat.max_eq_right h]

/-- A transaction starts at the nearest time that the probe can tell. -/
theorem startedAt?_begin (probe : Probe) (now : Nat) :
    (probe.begin now).startedAt? = some (nearest probe.anchor now) := by
  have hpositive : 0 < unlimited := by decide
  have hbusy : encodeStart probe.anchor now ≠ idle := by
    unfold encodeStart idle
    omega
  rw [startedAt?, begin, if_neg hbusy]
  unfold encodeStart nearest
  congr 1
  show probe.anchor + (min (now - probe.anchor + 1) unlimited - 1) = _
  omega

end Probe

/-- What may be done to a worker by whoever has it at hand, but for what concerns its transaction. -/
inductive WorkerOp where
  /-- Its attributes are changed. -/
  | attributes (edit : StoreEdit)
  /-- Its scratch buffers are used. -/
  | arena (change : Arena → Arena)
  /-- Its cached objects are used. -/
  | cache (change : ObjectCache → ObjectCache)
  /-- The timeout of its transactions is changed. -/
  | setTimeout (timeout : Option Nat)

/-- Carries out an operation on a worker. -/
def WorkerOp.perform (worker : Worker) : WorkerOp → Worker
  | attributes edit => { worker with attributes := edit.apply worker.attributes }
  | arena change => { worker with arena := change worker.arena }
  | cache change => { worker with cache := change worker.cache }
  | setTimeout timeout => worker.setTimeout timeout

namespace Worker

open Scope

/-- A worker as it has to be inside of the given scopes; `anchor` is when its probe was made. -/
structure Stands (anchor : Nat) (scopes : List Scope) (worker : Worker) : Prop where
  unitDepth : worker.unitDepth = (active scopes).length
  started : worker.probe.startedAt? = (active scopes).getLast?.map (Probe.nearest anchor)
  anchored : worker.probe.anchor = anchor
  sound : worker.attributes.Sound

variable {anchor entry now : Nat} {scopes : List Scope} {worker : Worker}

theorem stands_access : Stands anchor (access :: scopes) worker ↔ Stands anchor scopes worker :=
  ⟨fun h ↦ ⟨h.unitDepth, h.started, h.anchored, h.sound⟩,
    fun h ↦ ⟨h.unitDepth, h.started, h.anchored, h.sound⟩⟩

/-- A unit inside of an access is not seen by the worker. -/
theorem stands_unit_of_mem (h : access ∈ scopes) :
    Stands anchor (unit entry :: scopes) worker ↔ Stands anchor scopes worker := by
  constructor
  · intro hstands
    have hdepth := hstands.unitDepth
    have hstarted := hstands.started
    rw [active_unit_of_mem h] at hdepth hstarted
    exact ⟨hdepth, hstarted, hstands.anchored, hstands.sound⟩
  · intro hstands
    have hdepth := hstands.unitDepth
    have hstarted := hstands.started
    rw [← active_unit_of_mem h entry] at hdepth hstarted
    exact ⟨hdepth, hstarted, hstands.anchored, hstands.sound⟩

theorem enterUnit_attributes (worker : Worker) (now : Nat) :
    (worker.enterUnit now).attributes = worker.attributes := by
  unfold enterUnit
  split <;> rfl

theorem unitDepth_enterUnit (worker : Worker) (now : Nat) :
    (worker.enterUnit now).unitDepth = worker.unitDepth + 1 := by
  unfold enterUnit
  split <;> rfl

theorem unitDepth_leaveUnit (worker : Worker) : worker.leaveUnit.unitDepth = worker.unitDepth - 1 := by
  unfold leaveUnit
  dsimp only
  split <;> rfl

/-- The outermost unit ends: so does the transaction, and the attributes are gone. -/
theorem leaveUnit_of_le_one (h : worker.unitDepth ≤ 1) :
    worker.leaveUnit = { worker with
      unitDepth := 0, probe := worker.probe.finish, attributes := worker.attributes.clear } := by
  have hzero : worker.unitDepth - 1 = 0 := by omega
  simp only [leaveUnit, hzero, if_true, endTransaction]

theorem leaveUnit_of_one_lt (h : 1 < worker.unitDepth) :
    worker.leaveUnit = { worker with unitDepth := worker.unitDepth - 1 } := by
  have hbusy : worker.unitDepth - 1 ≠ 0 := by omega
  rw [leaveUnit]
  exact if_neg hbusy

/-- A unit that begins outside of any access is counted. -/
theorem Stands.enterUnit (h : Stands anchor scopes worker) (hfree : access ∉ scopes) (now : Nat) :
    Stands anchor (unit now :: scopes) (worker.enterUnit now) := by
  have hdepth := h.unitDepth
  have hstarted := h.started
  have hactive := active_unit_of_notMem hfree now
  cases houter : active scopes with
  | nil =>
    rw [houter] at hactive hdepth
    have hidle : worker.unitDepth = 0 := hdepth
    have henter : worker.enterUnit now = { worker with
        probe := worker.probe.begin now, unitDepth := worker.unitDepth + 1 } := by
      rw [Worker.enterUnit, if_pos hidle, beginTransaction]
    rw [henter]
    refine ⟨?_, ?_, h.anchored, h.sound⟩
    · rw [hactive, hidle]
      rfl
    · rw [hactive, Probe.startedAt?_begin, h.anchored]
      rfl
  | cons inner outer =>
    rw [houter] at hactive hdepth hstarted
    have hbusy : worker.unitDepth ≠ 0 := hdepth ▸ Nat.succ_ne_zero _
    have henter : worker.enterUnit now = { worker with unitDepth := worker.unitDepth + 1 } := by
      rw [Worker.enterUnit, if_neg hbusy]
    rw [henter]
    refine ⟨?_, ?_, h.anchored, h.sound⟩
    · rw [hactive, hdepth]
      rfl
    · rw [hactive, List.getLast?_cons_cons]
      exact hstarted

/-- The outermost unit ends the transaction and clears the attributes, and no other one does. -/
theorem Stands.leaveUnit_of_outermost (h : Stands anchor (unit entry :: scopes) worker)
    (hfree : access ∉ scopes) (houter : active scopes = []) :
    Stands anchor scopes worker.leaveUnit ∧ worker.leaveUnit.attributes.Blank := by
  have hdepth : worker.unitDepth = 1 := by
    rw [h.unitDepth, active_unit_of_notMem hfree, houter]
    rfl
  have hblank := h.sound.blank_clear
  rw [leaveUnit_of_le_one (Nat.le_of_eq hdepth)]
  refine ⟨⟨?_, ?_, h.anchored, hblank.sound⟩, hblank⟩
  · rw [houter]
    rfl
  · rw [houter]
    rfl

/-- A unit that ends inside of another one leaves the transaction and the attributes as they are. -/
theorem Stands.leaveUnit_of_inner (h : Stands anchor (unit entry :: scopes) worker)
    (hfree : access ∉ scopes) (houter : active scopes ≠ []) :
    Stands anchor scopes worker.leaveUnit ∧ worker.leaveUnit.attributes = worker.attributes := by
  have hdepth := h.unitDepth
  have hstarted := h.started
  obtain ⟨inner, outer, houter⟩ := List.exists_cons_of_ne_nil houter
  rw [active_unit_of_notMem hfree, houter] at hdepth hstarted
  have hinner : 1 < worker.unitDepth := by
    rw [hdepth]
    exact Nat.succ_lt_succ (Nat.succ_pos _)
  rw [leaveUnit_of_one_lt hinner]
  refine ⟨⟨?_, ?_, h.anchored, h.sound⟩, rfl⟩
  · rw [houter]
    exact congrArg (· - 1) hdepth
  · rw [houter, ← List.getLast?_cons_cons]
    exact hstarted

/-- Whoever has the worker at hand leaves it as it has to stand. -/
theorem Stands.perform (h : Stands anchor scopes worker) (op : WorkerOp) :
    Stands anchor scopes (op.perform worker) := by
  cases op with
  | attributes edit => exact ⟨h.unitDepth, h.started, h.anchored, edit.sound _ h.sound⟩
  | _ => exact ⟨h.unitDepth, h.started, h.anchored, h.sound⟩

end Worker

end Conduit
