import Conduit.Proofs.Worker.Program

/-!
# The books of a worker

A worker knows of the units of work in progress by a counter, of the outermost one by the start of its
transaction, and it keeps attributes until that one ends. The units begin and end in many ways: by
themselves, around the events of connections, by an answer or by a panic, and inside of accesses, where
the worker is not told of them.

`ThreadMoment.Shows` says what the worker shows at a moment of a run, in terms of the scopes that the
program is inside of then and of what had happened before. `ThreadWorld.Kept` carries it along a run:
whatever a body or a stage does, the scopes are afterwards as they were, and all that happened in
between happened inside of them (`ThreadWorld.Onto`).
-/

namespace Conduit

open Scope

/-! ### What a worker shows -/

/-- A worker that is not in any unit of work. -/
structure IdleWorker where
  /-- The worker. -/
  worker : Worker
  /-- It counts no units. -/
  unitDepth : worker.unitDepth = 0
  /-- It has no transaction. -/
  started : worker.probe.startedAt? = none
  /-- Its attributes are in a sound store. -/
  sound : worker.attributes.Sound

/-- A new worker is idle. -/
def IdleWorker.new (name : String) (settings : WorkerSettings) (clock : ClockRef) (now : Nat)
    (registry : Registry) : IdleWorker where
  worker := .new name settings clock now registry
  unitDepth := rfl
  started := rfl
  sound := (AttributeStore.blank_new registry).sound

namespace ThreadMoment

variable (ref : WorkerRef) (found : Worker)

/-- The worker after what has happened; it was `found` like that in the beginning. -/
def latest : List ThreadMoment → Worker
  | [] => found
  | moment :: _ => moment.workers ref

/-- What becomes of the attributes: they change as whoever has the worker at hand changes them, and they
are gone when the outermost unit ends. -/
def Leaves (moment : ThreadMoment) (earlier : List ThreadMoment) : Prop :=
  match moment.event with
  | .altered op =>
    (moment.workers ref).attributes = (op.perform (latest ref found earlier)).attributes
  | .unitEnded _ | .dispatched _ =>
    if access ∉ moment.scopes ∧ active moment.scopes = [] then (moment.workers ref).attributes.Blank
    else (moment.workers ref).attributes = (latest ref found earlier).attributes
  | _ => (moment.workers ref).attributes = (latest ref found earlier).attributes

/-- Something began at an earlier moment in a scope of its own, and everything since then happened
inside of that scope. -/
def Closes (moment : ThreadMoment) (earlier : List ThreadMoment) (event : ThreadEvent) (scope : Scope) :
    Prop :=
  ∃ during workers before, earlier = during ++ ⟨event, workers, scope :: moment.scopes⟩ :: before ∧
    ∀ between ∈ during, (scope :: moment.scopes) <:+ between.scopes

/-- How units and accesses are nested: units run their bodies anywhere, and accesses run theirs unless
they are inside of another one. -/
def Nests (moment : ThreadMoment) (earlier : List ThreadMoment) : Prop :=
  match moment.event with
  | .unitEnded _ => ∃ entry, moment.Closes earlier .unitBegan (unit entry)
  | .accessBegan => ∃ outer, moment.scopes = access :: outer ∧ access ∉ outer
  | .accessed (some _) => access ∉ moment.scopes ∧ moment.Closes earlier .accessBegan access
  | .accessed none => access ∈ moment.scopes
  | .altered _ => access ∈ moment.scopes
  | _ => True

/-- What the worker shows at a moment. -/
structure Shows (moment : ThreadMoment) (earlier : List ThreadMoment) : Prop where
  /-- It counts the units in progress. -/
  unitDepth : (moment.workers ref).unitDepth = (active moment.scopes).length
  /-- Its transaction began with the outermost one of them. -/
  started : (moment.workers ref).probe.startedAt? =
    (active moment.scopes).getLast?.map (Probe.nearest found.probe.anchor)
  leaves : moment.Leaves ref found earlier
  nests : moment.Nests earlier

/-- What the worker shows at all moments of a history. -/
def Account : List ThreadMoment → Prop
  | [] => True
  | moment :: earlier => moment.Shows ref found earlier ∧ Account earlier

end ThreadMoment

namespace ThreadWorld

open ThreadMoment

variable {S U A : Type} (ref : WorkerRef) (found : Worker)

/-- A thread on which an idle worker is installed, and nothing has happened. -/
def fresh (ref : WorkerRef) (workers : WorkerRef → IdleWorker) (env : ThreadEnv S U) :
    ThreadWorld S U where
  slot := { installed := some ref }
  workers other := (workers other).worker
  env

/-- The thread has its worker, which is borrowed inside of an access, and everything is accounted
for. -/
structure Steady (w : ThreadWorld S U) : Prop where
  slot : w.slot = ⟨some ref, decide (Scope.access ∈ w.scopes)⟩
  stands : (w.workers ref).Stands found.probe.anchor w.scopes
  account : Account ref found w.history

/-- Nothing has happened to the attributes since the last moment either. -/
structure Kept (w : ThreadWorld S U) : Prop extends Steady ref found w where
  attributes : (w.workers ref).attributes = (latest ref found w.history).attributes

/-- What happened from one world to another happened inside of the scopes of the first one, and that is
over. -/
structure Onto (w w' : ThreadWorld S U) : Prop where
  kept : w'.Kept ref found
  scopes : w'.scopes = w.scopes
  grown : ∃ added, w'.history = added ++ w.history ∧ ∀ moment ∈ added, w.scopes <:+ moment.scopes

/-- An action after which everything is accounted for, if it was before. -/
def Keeps (action : StateM (ThreadWorld S U) A) : Prop :=
  ∀ w : ThreadWorld S U, w.Kept ref found → w.Onto ref found (action w).2

variable {ref found} {w w' w'' : ThreadWorld S U} {event : ThreadEvent} {entry : Nat}

/-- Inside of an access the worker is borrowed. -/
theorem Steady.slot_of_mem (h : w.Steady ref found) (hmem : Scope.access ∈ w.scopes) :
    w.slot = ⟨some ref, true⟩ := by
  rw [h.slot, decide_eq_true hmem]

theorem Steady.slot_of_notMem (h : w.Steady ref found) (hfree : Scope.access ∉ w.scopes) :
    w.slot = ⟨some ref, false⟩ := by
  rw [h.slot, decide_eq_false hfree]

theorem Kept.onto (h : w.Kept ref found) : w.Onto ref found w :=
  ⟨h, rfl, [], rfl, fun _ hmem ↦ absurd hmem List.not_mem_nil⟩

theorem Onto.trans (h : w.Onto ref found w') (h' : w'.Onto ref found w'') :
    w.Onto ref found w'' := by
  obtain ⟨added, hhistory, hinside⟩ := h.grown
  obtain ⟨added', hhistory', hinside'⟩ := h'.grown
  refine ⟨h'.kept, h'.scopes.trans h.scopes, added' ++ added, ?_, fun moment hmem ↦ ?_⟩
  · rw [hhistory', hhistory, List.append_assoc]
  · rcases List.mem_append.1 hmem with hmem | hmem
    · rw [← h.scopes]
      exact hinside' moment hmem
    · exact hinside moment hmem

/-- A note is accounted for when it says of attributes and nesting what it has to say. -/
theorem Steady.note (h : w.Steady ref found)
    (hleaves : Leaves ref found ⟨event, w.workers, w.scopes⟩ w.history)
    (hnests : Nests ⟨event, w.workers, w.scopes⟩ w.history) : (w.note event).Kept ref found where
  slot := h.slot
  stands := h.stands
  account := ⟨⟨h.stands.unitDepth, h.stands.started, hleaves, hnests⟩, h.account⟩
  attributes := rfl

/-- After such a note all is as it was in the scopes that are open. -/
theorem Kept.onto_note (h : w.Kept ref found)
    (hleaves : Leaves ref found ⟨event, w.workers, w.scopes⟩ w.history)
    (hnests : Nests ⟨event, w.workers, w.scopes⟩ w.history) : w.Onto ref found (w.note event) :=
  ⟨h.toSteady.note hleaves hnests, rfl, [_], rfl, List.forall_mem_singleton.2 List.suffix_rfl⟩

/-- What has begun has ended, and its end is noted. -/
theorem onto_note_of_grown (hkept : (w'.note event).Kept ref found) (hscopes : w'.scopes = w.scopes)
    {during : List ThreadMoment} {began : ThreadMoment}
    (hhistory : w'.history = during ++ began :: w.history) (hbegan : w.scopes <:+ began.scopes)
    (hinside : ∀ moment ∈ during, w.scopes <:+ moment.scopes) : w.Onto ref found (w'.note event) := by
  refine ⟨hkept, hscopes, ⟨event, w'.workers, w'.scopes⟩ :: (during ++ [began]), ?_, ?_⟩
  · rw [note, hhistory, List.cons_append, List.append_assoc, List.singleton_append]
  · exact List.forall_mem_cons.2 ⟨hscopes ▸ List.suffix_rfl,
      List.forall_mem_append.2 ⟨hinside, List.forall_mem_singleton.2 hbegan⟩⟩

/-! ### What is not the business of the worker -/

/-- Nothing has happened but around the thread, and the clocks have not gone on. -/
def Beside (w w' : ThreadWorld S U) : Prop :=
  ∃ env, env.now = w.env.now ∧ w' = { w with env }

theorem Beside.refl (w : ThreadWorld S U) : w.Beside w :=
  ⟨w.env, rfl, rfl⟩

theorem Beside.trans (h : w.Beside w') (h' : w'.Beside w'') : w.Beside w'' := by
  obtain ⟨env, hnow, rfl⟩ := h
  obtain ⟨env', hnow', rfl⟩ := h'
  exact ⟨env', hnow'.trans hnow, rfl⟩

/-- What is around the thread is not the business of its worker. -/
theorem Steady.env (h : w.Steady ref found) (env : ThreadEnv S U) :
    ({ w with env } : ThreadWorld S U).Steady ref found :=
  ⟨h.slot, h.stands, h.account⟩

theorem Kept.env (h : w.Kept ref found) (env : ThreadEnv S U) :
    ({ w with env } : ThreadWorld S U).Kept ref found :=
  ⟨h.toSteady.env env, h.attributes⟩

/-- What happens only around the thread does not show in the books. -/
theorem Onto.beside (h : w.Onto ref found w') (hbeside : w'.Beside w'') :
    w.Onto ref found w'' := by
  obtain ⟨env, -, rfl⟩ := hbeside
  exact ⟨h.kept.env env, h.scopes, h.grown⟩

section Host

variable {act : S → StageView → StateM (ThreadWorld S U) StageReply}

theorem beside_acquire (pool : PoolRef) (w : ThreadWorld S U) :
    w.Beside ((host act).acquire pool w).2 :=
  ⟨((host act).acquire pool w).2.env, rfl, rfl⟩

theorem beside_release (lease : Lease) (w : ThreadWorld S U) :
    w.Beside ((host act).release lease w).2 :=
  ⟨((host act).release lease w).2.env, rfl, rfl⟩

theorem beside_abandon (connection : Connection) (w : ThreadWorld S U) :
    w.Beside (connection.abandon (host act) w).2 := by
  unfold Connection.abandon
  cases connection.suspended with
  | none => exact .refl w
  | some lease => exact beside_release lease w

/-! ### Units of work -/

/-- A unit enters the worker that can be borrowed. -/
theorem enter_of_free (h : w.slot = ⟨some ref, false⟩) :
    (host act).enter w = (true, { w with
      workers := Function.update w.workers ref ((w.workers ref).enterUnit w.reading) }) := by
  have hread : (host act).slot.read w = ⟨some ref, false⟩ := h
  have hreading : w.reading = w.env.now (w.workers ref).clock := by rw [reading, h]; rfl
  simp only [ConnectionHost.enter, WorkerHost.changeCurrent, bind, StateT.bind, Cell.get, hread,
    hreading]
  rfl

/-- A unit that begins inside of an access enters nothing. -/
theorem enter_of_borrowed (h : w.slot = ⟨some ref, true⟩) : (host act).enter w = (false, w) := by
  have hread : (host act).slot.read w = ⟨some ref, true⟩ := h
  simp only [ConnectionHost.enter, WorkerHost.changeCurrent, bind, StateT.bind, Cell.get, hread]
  rfl

/-- A unit that has entered the worker leaves it again. -/
theorem leave_of_free (h : w.slot = ⟨some ref, false⟩) :
    ((host act).leave true w).2 =
      { w with workers := Function.update w.workers ref (w.workers ref).leaveUnit } := by
  have hread : (host act).slot.read w = ⟨some ref, false⟩ := h
  have hchanged : ((host act).changeCurrent fun _ worker ↦ worker.leaveUnit) w = (true,
      { w with workers := Function.update w.workers ref (w.workers ref).leaveUnit }) := by
    simp only [WorkerHost.changeCurrent, bind, StateT.bind, Cell.get, hread]
    rfl
  exact congrArg Prod.snd hchanged

/-- A unit of work has just ended; with the outermost one, the attributes are gone. -/
structure Released (ref : WorkerRef) (found : Worker) (w : ThreadWorld S U) : Prop
    extends Steady ref found w where
  attributes : if Scope.access ∉ w.scopes ∧ active w.scopes = [] then (w.workers ref).attributes.Blank
    else (w.workers ref).attributes = (latest ref found w.history).attributes

/-- Inside of an access, nothing is done to the worker when a unit ends. -/
theorem Kept.released_of_mem {outer : List Scope} (h : w.Kept ref found)
    (hscopes : w.scopes = .unit entry :: outer) (hmem : Scope.access ∈ outer) :
    w.pop.Released ref found := by
  have hpop : w.pop.scopes = outer := congrArg List.tail hscopes
  have hslot : w.slot = ⟨some ref, true⟩ :=
    h.slot_of_mem (by rw [hscopes]; exact List.mem_cons_of_mem _ hmem)
  have hstands := h.stands
  rw [hscopes] at hstands
  refine ⟨⟨?_, ?_, h.account⟩, ?_⟩
  · rw [hpop, decide_eq_true hmem]
    exact hslot
  · rw [hpop]
    exact (Worker.stands_unit_of_mem hmem).1 hstands
  · rw [hpop, if_neg fun hfree ↦ hfree.1 hmem]
    exact h.attributes

/-- A unit has ended outside of any access. With the outermost one the attributes are gone. -/
theorem Kept.released_of_notMem {outer : List Scope} (h : w.Kept ref found)
    (hscopes : w.scopes = .unit entry :: outer) (hfree : Scope.access ∉ outer) :
    ((host act).leave true w).2.pop.Released ref found ∧
      ((host act).leave true w).2.pop.scopes = outer ∧
      ((host act).leave true w).2.history = w.history := by
  have hslot : w.slot = ⟨some ref, false⟩ := h.slot_of_notMem (by rw [hscopes]; simpa using hfree)
  have hstands := h.stands
  rw [hscopes] at hstands
  rw [leave_of_free hslot]
  have hpop : w.scopes.tail = outer := congrArg List.tail hscopes
  refine ⟨⟨⟨?_, ?_, h.account⟩, ?_⟩, hpop, rfl⟩
  · show w.slot = ⟨some ref, decide (Scope.access ∈ w.scopes.tail)⟩
    rw [hpop, decide_eq_false hfree]
    exact hslot
  · show (Function.update w.workers ref (w.workers ref).leaveUnit ref).Stands _ w.scopes.tail
    rw [Function.update_self, hpop]
    by_cases houter : active outer = []
    · exact (hstands.leaveUnit_of_outermost hfree houter).1
    · exact (hstands.leaveUnit_of_inner hfree houter).1
  · show if Scope.access ∉ w.scopes.tail ∧ active w.scopes.tail = []
      then (Function.update w.workers ref (w.workers ref).leaveUnit ref).attributes.Blank
      else (Function.update w.workers ref (w.workers ref).leaveUnit ref).attributes =
        (latest ref found w.history).attributes
    rw [Function.update_self, hpop]
    by_cases houter : active outer = []
    · rw [if_pos ⟨hfree, houter⟩]
      exact (hstands.leaveUnit_of_outermost hfree houter).2
    · rw [if_neg fun hboth ↦ houter hboth.2, (hstands.leaveUnit_of_inner hfree houter).2]
      exact h.attributes

/-- A unit has begun outside of any access: the worker counts it. -/
theorem Kept.entered (h : w.Kept ref found) (hfree : Scope.access ∉ w.scopes) :
    ({ w.push (.unit w.reading) with
        workers := Function.update w.workers ref ((w.workers ref).enterUnit w.reading) } :
      ThreadWorld S U).Kept ref found := by
  refine ⟨⟨h.slot.trans (by simp [push]), ?_, h.account⟩, ?_⟩
  · show (Function.update w.workers ref _ ref).Stands _ _
    rw [Function.update_self]
    exact h.stands.enterUnit hfree w.reading
  · show (Function.update w.workers ref _ ref).attributes = _
    rw [Function.update_self, Worker.enterUnit_attributes]
    exact h.attributes

/-- The body of a unit runs in a world where everything is accounted for, with one unit more, and so it
is again once the unit has ended. -/
theorem Kept.runUnit (act : S → StageView → StateM (ThreadWorld S U) StageReply)
    (h : w.Kept ref found) (body : StateM (ThreadWorld S U) A) (hbody : Keeps ref found body) :
    ∃ u : ThreadWorld S U, u.Kept ref found ∧ u.scopes = .unit w.reading :: w.scopes ∧
      u.history = w.history ∧
      let ended := (host act).runUnit body (w.push (.unit w.reading))
      ended.1 = (body u).1 ∧ ended.2.history = (body u).2.history ∧
        ended.2.pop.Released ref found ∧ ended.2.pop.scopes = w.scopes := by
  by_cases hmem : Scope.access ∈ w.scopes
  · have hslot : (w.push (.unit w.reading)).slot = ⟨some ref, true⟩ := h.slot_of_mem hmem
    have hpushed : (w.push (.unit w.reading)).Kept ref found :=
      ⟨⟨h.slot.trans (by simp [push]), (Worker.stands_unit_of_mem hmem).2 h.stands, h.account⟩,
        h.attributes⟩
    have hran := hbody _ hpushed
    refine ⟨_, hpushed, rfl, rfl, ?_⟩
    rw [ConnectionHost.runUnit_eq, enter_of_borrowed hslot]
    exact ⟨rfl, rfl, hran.kept.released_of_mem hran.scopes hmem, congrArg List.tail hran.scopes⟩
  · have hslot : (w.push (.unit w.reading)).slot = ⟨some ref, false⟩ := h.slot_of_notMem hmem
    have hran := hbody _ (h.entered hmem)
    refine ⟨_, h.entered hmem, rfl, rfl, ?_⟩
    rw [ConnectionHost.runUnit_eq, enter_of_free hslot]
    obtain ⟨hreleased, hscopes, hhistory⟩ := hran.kept.released_of_notMem hran.scopes hmem
    exact ⟨rfl, hhistory, hreleased, hscopes⟩

/-- **A unit of work is accounted for** if its body is. -/
theorem keeps_unit {body : StateM (ThreadWorld S U) StageReply} (hbody : Keeps ref found body) :
    Keeps ref found (unit body) := by
  intro w hw
  have hbegan : ∀ u : ThreadWorld S U, u.Kept ref found → u.Onto ref found (u.note .unitBegan) :=
    fun u hu ↦ hu.onto_note hu.attributes trivial
  obtain ⟨u, hu, hscopes, hhistory, hended⟩ :=
    hw.runUnit (fun _ _ ↦ pure (.error .other, id)) (fun w ↦ body (w.note .unitBegan))
      fun u hu ↦ (hbegan u hu).trans (hbody _ (hbegan u hu).kept)
  obtain ⟨during, hadded, hinside⟩ := (hbody _ (hbegan u hu).kept).grown
  simp only [unit, quiet]
  rcases hrun : (host fun _ _ ↦ pure (.error .other, id)).runUnit
    (fun w ↦ body (w.note .unitBegan)) (w.push (.unit w.reading)) with ⟨⟨answer, edit⟩, left⟩
  simp only [hrun] at hended
  obtain ⟨-, hleft, hreleased, houter⟩ := hended
  have hgrown : left.pop.history =
      during ++ ⟨.unitBegan, u.workers, .unit w.reading :: left.pop.scopes⟩ :: w.history := by
    rw [houter, ← hscopes, ← hhistory]
    exact hleft.trans hadded
  have hwithin : ∀ moment ∈ during, (.unit w.reading :: left.pop.scopes) <:+ moment.scopes := by
    rw [houter, ← hscopes]
    exact hinside
  have houtside : w.scopes <:+ .unit w.reading :: left.pop.scopes := houter ▸ List.suffix_cons _ _
  refine onto_note_of_grown (hreleased.toSteady.note hreleased.attributes ?_) houter hgrown houtside
    fun moment hmem ↦ houtside.trans (hwithin moment hmem)
  exact ⟨w.reading, during, u.workers, w.history, hgrown, hwithin⟩

/-! ### Accesses -/

/-- Without an access nothing is done to the worker, and the caller is told so. -/
theorem alter_of_free (h : w.slot = ⟨some ref, false⟩) (op : WorkerOp) :
    alter op w = (false, w.note .denied) := by
  unfold alter
  rw [h]

/-- With an access the worker is changed as asked. -/
theorem alter_of_borrowed (h : w.slot = ⟨some ref, true⟩) (op : WorkerOp) :
    alter op w = (true,
      { w with workers := Function.update w.workers ref (op.perform (w.workers ref)) }.note
        (.altered op)) := by
  unfold alter
  rw [h]

theorem keeps_alter (op : WorkerOp) :
    Keeps ref found (alter op : StateM (ThreadWorld S U) Bool) := by
  intro w hw
  by_cases hmem : Scope.access ∈ w.scopes
  · rw [alter_of_borrowed (hw.slot_of_mem hmem)]
    have hupdate : Function.update w.workers ref (op.perform (w.workers ref)) ref =
        op.perform (w.workers ref) := Function.update_self ..
    have hleaves : (op.perform (w.workers ref)).attributes =
        (op.perform (latest ref found w.history)).attributes := by
      cases op with
      | attributes edit => exact congrArg edit.apply hw.attributes
      | _ => exact hw.attributes
    have hstands : (Function.update w.workers ref (op.perform (w.workers ref)) ref).Stands
        found.probe.anchor w.scopes := by
      rw [hupdate]
      exact hw.stands.perform op
    have hsteady : ({ w with
        workers := Function.update w.workers ref (op.perform (w.workers ref)) } :
        ThreadWorld S U).Steady ref found := ⟨hw.slot, hstands, hw.account⟩
    exact ⟨hsteady.note ((congrArg Worker.attributes hupdate).trans hleaves) hmem, rfl, [_], rfl,
      List.forall_mem_singleton.2 List.suffix_rfl⟩
  · rw [alter_of_free (hw.slot_of_notMem hmem)]
    exact hw.onto_note hw.attributes trivial

/-- An access inside of another one runs nothing. -/
theorem access_of_borrowed (h : w.slot = ⟨some ref, true⟩)
    (body : WorkerRef → StateM (ThreadWorld S U) StageReply) :
    access body w = (none, w.note (.accessed none)) := by
  have hread : (quiet (S := S)).slot.read w = ⟨some ref, true⟩ := h
  simp only [access, WorkerHost.withCurrent, bind, StateT.bind, Cell.get, hread]
  rfl

/-- An access borrows the worker, runs its body, and gives the worker back. -/
theorem access_of_free (h : w.slot = ⟨some ref, false⟩)
    (body : WorkerRef → StateM (ThreadWorld S U) StageReply) :
    access body w =
      let begun := ({ w with slot := ⟨some ref, true⟩ }.push .access).note .accessBegan
      let ended := body ref begun
      (some ended.1.1,
        { ended.2.pop with slot := { ended.2.slot with borrowed := false } }.note
          (.accessed (some ended.1.1))) := by
  have hread : (quiet (S := S)).slot.read w = ⟨some ref, false⟩ := h
  simp only [access, WorkerHost.withCurrent, bind, StateT.bind, Cell.get, hread]
  obtain ⟨slot, workers, env, scopes, history⟩ := w
  obtain rfl : slot = _ := h
  rfl

/-- **An access is accounted for** if its body is. -/
theorem keeps_access {body : WorkerRef → StateM (ThreadWorld S U) StageReply}
    (hbody : ∀ ref', Keeps ref found (body ref')) : Keeps ref found (access body) := by
  intro w hw
  by_cases hmem : Scope.access ∈ w.scopes
  · rw [access_of_borrowed (hw.slot_of_mem hmem)]
    exact hw.onto_note hw.attributes hmem
  · have hbegun : ({ w with slot := ⟨some ref, true⟩ }.push .access : ThreadWorld S U).Steady
        ref found := ⟨by simp [push], Worker.stands_access.2 hw.stands, hw.account⟩
    have hbegan : ({ w with slot := ⟨some ref, true⟩ }.push .access |>.note .accessBegan).Kept
        ref found := hbegun.note hw.attributes ⟨w.scopes, rfl, hmem⟩
    obtain ⟨hkept, houter, during, hgrown, hinside⟩ := hbody ref _ hbegan
    rcases hrun : body ref ({ w with slot := ⟨some ref, true⟩ }.push .access |>.note .accessBegan) with
      ⟨⟨answer, edit⟩, left⟩
    rw [hrun] at hkept houter hgrown
    simp only [access_of_free (hw.slot_of_notMem hmem), hrun]
    have hpushed : left.scopes = .access :: w.scopes := houter
    have hscopes : left.pop.scopes = w.scopes := congrArg List.tail hpushed
    have hborrowed : left.slot = ⟨some ref, true⟩ :=
      hkept.slot_of_mem (by rw [hpushed]; exact List.mem_cons_self)
    have hback : ({ left.pop with slot := { left.slot with borrowed := false } } :
        ThreadWorld S U).Steady ref found := by
      refine ⟨?_, ?_, hkept.account⟩
      · show ({ left.slot with borrowed := false } : WorkerSlot) = ⟨_, decide (_ ∈ left.pop.scopes)⟩
        rw [hborrowed, hscopes, decide_eq_false hmem]
      · show (left.workers ref).Stands _ left.pop.scopes
        rw [hscopes]
        exact Worker.stands_access.1 (hpushed ▸ hkept.stands)
    have hlater : left.pop.history =
        during ++ ⟨.accessBegan, w.workers, .access :: left.pop.scopes⟩ :: w.history := by
      rw [hscopes]
      exact hgrown
    have hwithin : ∀ moment ∈ during, (.access :: left.pop.scopes) <:+ moment.scopes := by
      rw [hscopes]
      exact hinside
    have houtside : w.scopes <:+ .access :: left.pop.scopes := hscopes ▸ List.suffix_cons _ _
    have hnoted : ({ left.pop with slot := { left.slot with borrowed := false } }.note
        (.accessed (some answer)) : ThreadWorld S U).Kept ref found :=
      hback.note hkept.attributes ⟨hscopes ▸ hmem, during, w.workers, w.history, hlater, hwithin⟩
    exact onto_note_of_grown hnoted hscopes hlater houtside
      fun moment hmem ↦ houtside.trans (hwithin moment hmem)

/-! ### Connections -/

/-- A pass is accounted for if its stages are. -/
theorem keeps_execute (hact : ∀ tag view, Keeps ref found (act tag view)) (lease : Lease)
    (event : Event) (connection : AttributeStore) :
    Keeps ref found ((host act).execute lease event connection) := by
  intro w hw
  have hasked : ∀ (stage : Stage S) (view : StageView) (w' : ThreadWorld S U),
      w.Onto ref found w' → w.Onto ref found ((host act).process stage.tag view w').2 := by
    intro stage view w' hw'
    have hcalled : w'.Onto ref found (w'.note .called) := hw'.kept.onto_note hw'.kept.attributes trivial
    exact hw'.trans (hcalled.trans (hact stage.tag view _ hcalled.kept))
  have hran : w.Onto ref found ((((host act).pool lease.pool).read w).chain.run
      (host act).toChainHost ⟨event, connection, lease.inst⟩ w).2 :=
    Chain.run_preserves (fun _ w' ↦ w.Onto ref found w')
      (fun _ w' stage hw' ↦ hasked stage _ w' hw') (fun _ _ hw' ↦ hw') (fun _ _ hw' ↦ hw') hw.onto
  rcases hrun : (((host act).pool lease.pool).read w).chain.run (host act).toChainHost
    ⟨event, connection, lease.inst⟩ w with ⟨⟨outcome, pass⟩, left⟩
  rw [hrun] at hran
  by_cases hsuspended : outcome = .ok .suspended
  · subst hsuspended
    rw [ChainHost.execute_of_suspended hrun]
    exact hran
  · rw [ChainHost.execute_of_ended hsuspended hrun]
    exact hran.beside (beside_release _ _)

/-- A pass has been run as a unit of work, and nothing is noted of its end. -/
structure Passed (ref : WorkerRef) (found : Worker) (w w' : ThreadWorld S U) : Prop where
  released : w'.pop.Released ref found
  scopes : w'.pop.scopes = w.scopes
  grown : ∃ added, w'.history = added ++ w.history ∧ ∀ moment ∈ added, w.scopes <:+ moment.scopes

theorem Passed.beside (h : w.Passed ref found w') (hbeside : w'.Beside w'') :
    w.Passed ref found w'' := by
  obtain ⟨env, -, rfl⟩ := hbeside
  exact ⟨⟨h.released.toSteady.env env, h.released.attributes⟩, h.scopes, h.grown⟩

/-- A pass is a unit of work, whatever its answer. -/
theorem passed_runPass (hact : ∀ tag view, Keeps ref found (act tag view)) (hw : w.Kept ref found)
    (connection : Connection) (event : Event) (lease : Lease) :
    w.Passed ref found
      (connection.runPass (host act) event lease (w.push (.unit w.reading))).2 := by
  have hexecute := keeps_execute hact lease event connection.attributes
  obtain ⟨u, hu, hscopes, hhistory, -, hended, hreleased, houter⟩ := hw.runUnit act _ hexecute
  obtain ⟨added, hadded, hinside⟩ := (hexecute u hu).grown
  have hfinish : (connection.runPass (host act) event lease (w.push (.unit w.reading))).2 =
      ((host act).runUnit ((host act).execute lease event connection.attributes)
        (w.push (.unit w.reading))).2 := by
    simp only [Connection.runPass, bind, StateT.bind]
    rcases (host act).runUnit ((host act).execute lease event connection.attributes)
      (w.push (.unit w.reading)) with ⟨⟨outcome, attributes⟩, left⟩
    rcases outcome with panic | failure | ended
    · rfl
    · rfl
    · cases ended <;> rfl
  rw [hfinish]
  refine ⟨hreleased, houter, added, ?_, fun moment hmem ↦ ?_⟩
  · rw [hended, hadded, hhistory]
  · exact (List.suffix_cons _ _).trans (hscopes ▸ hinside moment hmem)

/-- What happens around the thread before a unit begins does not matter. -/
theorem Kept.exists_push (hw : w.Kept ref found) (hbeside : (w.push (.unit w.reading)).Beside w') :
    ∃ v : ThreadWorld S U, v.Kept ref found ∧ v.scopes = w.scopes ∧ v.history = w.history ∧
      w' = v.push (.unit v.reading) := by
  obtain ⟨env, hnow, rfl⟩ := hbeside
  refine ⟨{ w with env }, hw.env env, rfl, rfl, ?_⟩
  have hreading : ({ w with env } : ThreadWorld S U).reading = w.reading := by
    unfold reading
    rw [hnow]
    rfl
  rw [hreading]
  rfl

/-- A pass that a connection runs is a unit of work, whatever lease it has for it. -/
theorem passed_dispatch (hact : ∀ tag view, Keeps ref found (act tag view)) (hw : w.Kept ref found)
    (connection : Connection) (event : Event) (hbeside : (w.push (.unit w.reading)).Beside w') :
    w.Passed ref found (connection.dispatch (host act) event w').2 := by
  have hpass : ∀ lease w', (w.push (.unit w.reading)).Beside w' →
      w.Passed ref found (connection.runPass (host act) event lease w').2 := by
    intro lease w' hbeside
    obtain ⟨v, hv, hscopes, hhistory, rfl⟩ := hw.exists_push hbeside
    obtain ⟨hreleased, houter, hgrown⟩ := passed_runPass hact hv connection event lease
    rw [hscopes] at houter hgrown
    rw [hhistory] at hgrown
    exact ⟨hreleased, houter, hgrown⟩
  unfold Connection.dispatch
  cases connection.suspended with
  | some lease => exact hpass lease w' hbeside
  | none => exact hpass _ _ (hbeside.trans (beside_acquire connection.pool w'))

/-- An operation runs one pass, and gives up at most what was suspended before and after it. -/
theorem passed_perform (hact : ∀ tag view, Keeps ref found (act tag view)) (hw : w.Kept ref found)
    {connection : Connection} {op : ConnectionOp} (hpasses : op.passes connection = true) :
    w.Passed ref found (op.perform (host act) connection (w.push (.unit w.reading))).2 := by
  cases op with
  | message buffer => exact passed_dispatch hact hw connection _ (.refl _)
  | resume event =>
    rw [ConnectionOp.perform_of_handles (show (ConnectionOp.resume event).Handles connection from hpasses)]
    exact passed_dispatch hact hw connection _ (.refl _)
  | close =>
    have habandoned : (w.push (.unit w.reading)).Beside
        (connection.abandon (host act) (w.push (.unit w.reading))).2 := beside_abandon connection _
    rcases hgiven : connection.abandon (host act) (w.push (.unit w.reading)) with ⟨given, w₁⟩
    rw [hgiven] at habandoned
    have hpassed := passed_dispatch hact hw given { kind := .close } habandoned
    rcases hrun : given.dispatch (host act) { kind := .close } w₁ with ⟨⟨answer, left⟩, w₂⟩
    rw [hrun] at hpassed
    simp only [ConnectionOp.perform, Connection.close, bind, StateT.bind, hgiven, hrun]
    cases answer with
    | error panic => exact hpassed
    | ok reply => exact hpassed.beside (beside_abandon left w₂)

/-- An operation that runs a pass is noted when the pass is over. -/
theorem dispatch_of_passes {name : Nat} {op : ConnectionOp} {connection : Connection}
    (hconnection : w.env.connections name = some connection)
    (hpasses : op.passes connection = true) :
    dispatch act name op w =
      let ended := op.perform (host act) connection
        (((w.note .dispatching).setConnection name none).push (.unit w.reading))
      (some ended.1.1, (ended.2.pop.setConnection name (some ended.1.2)).note
        (.dispatched ended.1.1)) := by
  simp only [dispatch, hconnection, hpasses]
  rfl

/-- A connection that has nothing to deal with does nothing. -/
theorem dispatch_of_rejected {name : Nat} {op : ConnectionOp} {connection : Connection}
    (hconnection : w.env.connections name = some connection)
    (hpasses : op.passes connection = false) :
    ∃ env, (dispatch act name op w).2 = { w with env }.note .turnedDown := by
  cases op with
  | message | close => contradiction
  | resume event =>
    have hperform := ConnectionOp.perform_of_rejected hpasses (host act) event
    simp only [dispatch, hconnection, hpasses, hperform]
    exact ⟨_, rfl⟩

/-- An operation on a connection is accounted for, whether it runs a pass or is refused. -/
theorem keeps_dispatch (hact : ∀ tag view, Keeps ref found (act tag view)) (name : Nat)
    (op : ConnectionOp) : Keeps ref found (dispatch act name op) := by
  intro w hw
  cases hconnection : w.env.connections name with
  | none =>
    simp only [dispatch, hconnection]
    exact hw.onto_note hw.attributes trivial
  | some connection =>
    cases hpasses : op.passes connection with
    | true =>
      have hnoted : (w.note .dispatching).Kept ref found := hw.toSteady.note hw.attributes trivial
      have hready : ((w.note .dispatching).setConnection name none).Kept ref found := hnoted.env _
      obtain ⟨hreleased, hscopes, during, hgrown, hinside⟩ := passed_perform hact hready hpasses
      rw [dispatch_of_passes hconnection hpasses]
      exact onto_note_of_grown ((hreleased.toSteady.env _).note hreleased.attributes trivial) hscopes
        hgrown List.suffix_rfl hinside
    | false =>
      obtain ⟨env, hrejected⟩ : ∃ env, (dispatch act name op w).2 = { w with env }.note .turnedDown :=
        dispatch_of_rejected hconnection hpasses
      have hnoted : ({ w with env }.note .turnedDown : ThreadWorld S U).Kept ref found :=
        (hw.toSteady.env env).note hw.attributes trivial
      rw [hrejected]
      exact ⟨hnoted, rfl, [_], rfl, List.forall_mem_singleton.2 List.suffix_rfl⟩

end Host

theorem Kept.onto_around (hw : w.Kept ref found) (change : ThreadEnv S U → ThreadEnv S U) :
    w.Onto ref found (w.around change) := by
  have hnoted : (w.around change).Kept ref found := (hw.toSteady.env _).note hw.attributes trivial
  exact ⟨hnoted, rfl, [_], rfl, List.forall_mem_singleton.2 List.suffix_rfl⟩

/-! ### Programs -/

/-- A program is accounted for, by induction over the program. -/
theorem keeps_program (program : ThreadProgram S U) : Keeps ref found program.run := by
  induction program with
  | done answer edit => exact fun w hw ↦ hw.onto
  | around change next ih =>
    intro w hw
    have hchanged := hw.onto_around change
    exact hchanged.trans (ih w.workers w.env _ hchanged.kept)
  | alter op next ih =>
    intro w hw
    have haltered := keeps_alter op w hw
    exact haltered.trans (ih _ _ haltered.kept)
  | unit body next ihBody ihNext =>
    intro w hw
    have hran := keeps_unit ihBody w hw
    exact hran.trans (ihNext _ _ hran.kept)
  | access body next ihBody ihNext =>
    intro w hw
    have hran := keeps_access ihBody w hw
    exact hran.trans (ihNext _ _ hran.kept)
  | dispatch name op stages next ihStages ihNext =>
    intro w hw
    have hran := keeps_dispatch ihStages name op w hw
    exact hran.trans (ihNext _ _ hran.kept)

theorem kept_fresh (ref : WorkerRef) (workers : WorkerRef → IdleWorker) (env : ThreadEnv S U) :
    (fresh ref workers env).Kept ref (workers ref).worker :=
  ⟨⟨rfl, ⟨(workers ref).unitDepth, (workers ref).started, rfl, (workers ref).sound⟩, trivial⟩, rfl⟩

/-- What a program leaves behind on a thread. -/
structure Accounted (ref : WorkerRef) (found : Worker) (w : ThreadWorld S U) : Prop where
  /-- The worker showed at all moments what it has to show. -/
  account : Account ref found w.history
  /-- No unit is in progress any more, and no access. -/
  scopes : w.scopes = []
  /-- The worker is idle again. -/
  idle : (w.workers ref).unitDepth = 0 ∧ (w.workers ref).probe.startedAt? = none
  /-- It can be borrowed. -/
  slot : w.slot = ⟨some ref, false⟩

end ThreadWorld

/-- **The books of a worker are right.** Whatever a program does on a thread on which an idle worker is
installed, the worker counts the units of work that it was told of, and its transaction began when the
outermost one did, as far as its probe can tell that time. Attributes last as long as the outermost
unit, unless they are changed on purpose; accesses inside of another one come to nothing, and units
inside of an access are run and leave no trace. -/
theorem ThreadProgram.unitsAccounted_run {S U : Type} (ref : WorkerRef)
    (workers : WorkerRef → IdleWorker) (env : ThreadEnv S U) (program : ThreadProgram S U) :
    (program.run (.fresh ref workers env)).2.Accounted ref (workers ref).worker := by
  have hran := ThreadWorld.keeps_program program _ (ThreadWorld.kept_fresh ref workers env)
  have hscopes : (program.run (.fresh ref workers env)).2.scopes = [] := hran.scopes
  have hslot := hran.kept.slot
  have hstands := hran.kept.stands
  rw [hscopes] at hslot hstands
  exact ⟨hran.kept.account, hscopes, ⟨hstands.unitDepth, hstands.started⟩, hslot⟩

/-- A unit of work that does nothing. -/
def ThreadProgram.pause : ThreadProgram Unit Unit :=
  .unit (.done (.ok (.ok .invoke)) id) fun answer ↦ .done answer id

/-- A worker that was made when its clock showed nothing. -/
def IdleWorker.early : IdleWorker :=
  .new "worker" {} ⟨0⟩ 0 (.new 0 0)

/-- What is around when a clock has gone on by its longest step. -/
def ThreadEnv.late : ThreadEnv Unit Unit where
  now _ := (Clock.advance {} Clock.longestStep).now
  registry := .new 0 0
  pools _ := { chain := ⟨"", [], {}⟩ }
  connections _ := none
  user := ()

/-- It is not so that the transaction starts exactly when the outermost unit begins. A probe has no
number for the last time that a clock can show. -/
theorem ThreadProgram.not_forall_started_eq :
    ¬ ∀ (S U : Type) (ref : WorkerRef) (workers : WorkerRef → IdleWorker) (env : ThreadEnv S U)
      (program : ThreadProgram S U), ∀ moment ∈ (program.run (.fresh ref workers env)).2.history,
        (moment.workers ref).probe.startedAt? = (active moment.scopes).getLast? := by
  intro h
  have hbegan := h Unit Unit ⟨0⟩ (fun _ ↦ .early) .late .pause _
    (List.mem_cons_of_mem _ List.mem_cons_self)
  exact absurd hbegan (by decide)

end Conduit
