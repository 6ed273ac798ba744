import Conduit.Connection.Basic
import Conduit.Proofs.Chain.Pool
import Conduit.Proofs.Chain.Program
import Conduit.Proofs.Chain.Visits

/-!
# What a pass does to a connection

A connection runs a pass on an instance: its suspended one, or one that it acquires for the purpose. A
`Passage` is the account of such a pass in terms of the visits that it makes. It says what the first
stage finds, that nothing happens in between, and that after the last stage either the instance is kept
at the next stage or it is back in the pool. What the connection and the pool are left with is all
determined by the last visit.

Entering and leaving a unit of work changes a worker, and a worker is not part of any pool
(`ConnectionHost.Apart`).
-/

namespace Conduit

namespace ConnectionHost

variable {W S L A : Type}

/-- The host that makes a note of every call of a stage. -/
def noting (host : ConnectionHost W S) (note : S → StageView → W → L) :
    ConnectionHost (W × List L) S where
  toChainHost := host.toChainHost.noting note
  slot := host.slot.onFst _
  worker ref := (host.worker ref).onFst _
  now clock w := host.now clock w.1

/-- The host that notes visits. -/
def visiting (host : ConnectionHost W S) : ConnectionHost (W × List (StageVisit W S)) S :=
  host.noting host.visit

/-! ### Units of work -/

section Unit

variable (host : ConnectionHost W S)

/-- Announces a unit of work to the worker of the thread. -/
def enter : StateM W Bool :=
  host.changeCurrent fun w worker ↦ worker.enterUnit (host.now worker.clock w)

/-- Tells the worker of the thread that a unit of work has ended, if it was announced. -/
def leave (entered : Bool) : StateM W Unit := do
  if entered then
    discard <| host.changeCurrent fun _ worker ↦ worker.leaveUnit

/-- A unit of work is its body, between the announcement that it begins and the one that it has ended, which
is made only if there was the first one. -/
theorem runUnit_eq (body : StateM W A) (w : W) :
    host.runUnit body w = ((body (host.enter w).2).1,
      (host.leave (host.enter w).1 (body (host.enter w).2).2).2) := by
  show (do
    let answer ← body
    if (host.enter w).1 then
      discard <| host.changeCurrent fun _ worker ↦ worker.leaveUnit
    return answer) (host.enter w).2 = _
  cases (host.enter w).1 <;> rfl

variable (note : S → StageView → W → L)

theorem notes_changeCurrent (change : W → Worker → Worker) :
    Notes (fun _ ↦ ([] : List L)) ((host.noting note).changeCurrent fun w ↦ change w.1)
      (host.changeCurrent change) := by
  intro w notes
  have hslot : (host.noting note).slot.read (w, notes) = host.slot.read w := rfl
  simp only [WorkerHost.changeCurrent, bind, StateT.bind, Cell.get, hslot]
  cases (host.slot.read w).free? <;> simp <;> rfl

theorem notes_enter : Notes (fun _ ↦ ([] : List L)) (host.noting note).enter host.enter :=
  host.notes_changeCurrent note fun w worker ↦ worker.enterUnit (host.now worker.clock w)

theorem notes_leave (entered : Bool) :
    Notes (fun _ ↦ ([] : List L)) ((host.noting note).leave entered) (host.leave entered) := by
  cases entered with
  | false => exact .pure ()
  | true =>
    intro w notes
    have hchanged := host.notes_changeCurrent note (fun _ worker ↦ worker.leaveUnit) w notes
    show ((), ((host.noting note).changeCurrent (fun _ worker ↦ worker.leaveUnit) (w, notes)).2) = _
    rw [hchanged]
    rfl

/-- A unit of work notes what its body notes. -/
theorem notes_runUnit {noted : W → List L} {body' : StateM (W × List L) A} {body : StateM W A}
    (h : Notes noted body' body) :
    Notes (fun w ↦ noted (host.enter w).2) ((host.noting note).runUnit body')
      (host.runUnit body) := by
  intro w notes
  rw [runUnit_eq, runUnit_eq]
  simp only [host.notes_enter note w notes, List.append_nil, h (host.enter w).2 notes,
    host.notes_leave note (host.enter w).1 (body (host.enter w).2).2]

theorem notes_acquire (ref : PoolRef) :
    Notes (fun _ ↦ ([] : List L)) ((host.noting note).acquire ref) (host.acquire ref) := by
  intro w notes
  rw [List.append_nil]
  rfl

theorem notes_release (lease : Lease) :
    Notes (fun _ ↦ ([] : List L)) ((host.noting note).release lease) (host.release lease) :=
  .modify _ _

end Unit

end ConnectionHost

namespace Connection

variable {W S L : Type} {host : ConnectionHost W S} {connection : Connection} {event : Event}
  {lease : Lease} {w w' : W} {pass : Pass} {outcome : Except Panic PassEnd}

/-! ### How a pass is answered -/

/-- The answer that a pass comes to. -/
def answered : Except Panic PassEnd → Answer
  | .ok .completed => .ok (.ok .invoke)
  | .ok (.stopped _) => .ok (.ok .stop)
  | .ok .suspended => .ok (.ok .suspend)
  | .ok (.failed failure) => .ok (.error failure.fault)
  | .error panic => .error panic

/-- A pass is answered as suspended only if it is. -/
theorem answered_eq_suspend_iff : answered outcome = .ok (.ok .suspend) ↔ outcome = .ok .suspended := by
  rcases outcome with panic | ending
  · simp [answered]
  · cases ending <;> simp [answered]

/-- A fault is answered when a stage has failed with it, or could not be called. -/
theorem answered_eq_error_iff {fault : Fault} : answered outcome = .ok (.error fault) ↔
    ∃ failure, outcome = .ok (.failed failure) ∧ failure.fault = fault := by
  rcases outcome with panic | ending
  · simp [answered]
  · cases ending <;> simp [answered]

/-- A pass that is suspended leaves its lease with the connection. -/
theorem runPass_of_suspended
    (h : ((host.pool lease.pool).read (host.enter w).2).chain.run host.toChainHost
      ⟨event, connection.attributes, lease.inst⟩ (host.enter w).2 = ((.ok .suspended, pass), w')) :
    connection.runPass host event lease w =
      ((.ok (.ok .suspend), { connection with
        attributes := pass.connection, suspended := some ⟨lease.pool, pass.inst⟩ }),
        (host.leave (host.enter w).1 w').2) := by
  simp only [runPass, bind, StateT.bind, host.runUnit_eq, ChainHost.execute_of_suspended h]
  rfl

/-- A pass that ends otherwise leaves nothing with the connection but its attributes. -/
theorem runPass_of_ended (hne : outcome ≠ .ok .suspended)
    (h : ((host.pool lease.pool).read (host.enter w).2).chain.run host.toChainHost
      ⟨event, connection.attributes, lease.inst⟩ (host.enter w).2 = ((outcome, pass), w')) :
    connection.runPass host event lease w =
      ((answered outcome, { connection with attributes := pass.connection, suspended := none }),
        (host.leave (host.enter w).1 (host.release ⟨lease.pool, pass.inst⟩ w').2).2) := by
  simp only [runPass, bind, StateT.bind, host.runUnit_eq, ChainHost.execute_of_ended hne h]
  rcases outcome with panic | ending
  · rfl
  · cases ending with
    | suspended => exact absurd rfl hne
    | _ => rfl

/-! ### Visits -/

/-- What is noted of a pass of a connection is what is noted of the pass. -/
theorem notes_runPass (host : ConnectionHost W S) (note : S → StageView → W → L)
    (connection : Connection) (event : Event) (lease : Lease) :
    Notes (fun w ↦ ((host.pool lease.pool).read (host.enter w).2).chain.notesOf host.toChainHost note
        ⟨event, connection.attributes, lease.inst⟩ (host.enter w).2)
      (connection.runPass (host.noting note) event lease) (connection.runPass host event lease) := by
  refine (host.notes_runUnit note
    (host.execute_noting note lease event connection.attributes)).then_quiet ?_
  rintro ⟨outcome, attributes⟩
  rcases outcome with panic | failure | outcome
  · exact .pure _
  · exact .pure _
  · cases outcome <;> exact .pure _

/-- The visits of a pass on a lease. -/
def visitsOfPass (host : ConnectionHost W S) (connection : Connection) (event : Event)
    (lease : Lease) (w : W) : List (StageVisit W S) :=
  ((host.pool lease.pool).read (host.enter w).2).chain.visitsOf host.toChainHost
    ⟨event, connection.attributes, lease.inst⟩ (host.enter w).2

/-- The lease on which a connection deals with its next event: that of a suspended pass, or one that it
acquires. -/
def leaseFor (host : ConnectionHost W S) (connection : Connection) : StateM W Lease :=
  match connection.suspended with
  | some lease => pure lease
  | none => host.acquire connection.pool

/-- An event is dealt with in one pass, on the lease for it. -/
theorem dispatch_eq (host : ConnectionHost W S) (connection : Connection) (event : Event) (w : W) :
    connection.dispatch host event w =
      connection.runPass host event (connection.leaseFor host w).1 (connection.leaseFor host w).2 := by
  unfold dispatch leaseFor
  cases connection.suspended <;> rfl

/-- The visits of the pass in which an event is dealt with. -/
def visitsOfDispatch (host : ConnectionHost W S) (connection : Connection) (event : Event) (w : W) :
    List (StageVisit W S) :=
  match connection.suspended with
  | some lease => connection.visitsOfPass host event lease w
  | none => connection.visitsOfPass host event (host.acquire connection.pool w).1
    (host.acquire connection.pool w).2

theorem visitsOfDispatch_eq (host : ConnectionHost W S) (connection : Connection) (event : Event)
    (w : W) :
    connection.visitsOfDispatch host event w =
      connection.visitsOfPass host event (connection.leaseFor host w).1
        (connection.leaseFor host w).2 := by
  unfold visitsOfDispatch leaseFor
  cases connection.suspended <;> rfl

/-- The visits of an event are all that is noted of it. -/
theorem notes_dispatch (host : ConnectionHost W S) (connection : Connection) (event : Event) :
    Notes (connection.visitsOfDispatch host event) (connection.dispatch host.visiting event)
      (connection.dispatch host event) := by
  unfold dispatch visitsOfDispatch
  cases connection.suspended with
  | some lease => exact notes_runPass host host.visit connection event lease
  | none => exact (host.notes_acquire host.visit connection.pool).after_quiet fun lease ↦
      notes_runPass host host.visit connection event lease

/-- How a connection that is found in a state deals with an event: in one pass, which makes these visits
and is answered like this. -/
inductive Deals (host : ConnectionHost W S) (connection : Connection) (event : Event) (w : W)
    (visits : List (StageVisit W S)) (answer : Answer) : Prop where
  /-- The pass is one of the chain to which the lease of the connection belongs, and a unit of work. It
  begins with the event, the attributes of the connection and the instance of the lease. -/
  | pass {lease : Lease} {leased start finish : W} {chain : Chain S} {left : Pass}
      {outcome : Except Panic PassEnd} (hlease : connection.leaseFor host w = (lease, leased))
      (hstart : start = (host.enter leased).2)
      (hchain : chain = ((host.pool lease.pool).read start).chain)
      (htour : chain.Tour host.toChainHost ⟨event, connection.attributes, lease.inst⟩ start visits
        outcome left finish)
      (hanswer : answer = answered outcome)

/-- **Every event is dealt with in a pass of its own.** -/
theorem deals_dispatch (host : ConnectionHost W S) (connection : Connection) (event : Event) (w : W) :
    connection.Deals host event w (connection.visitsOfDispatch host event w)
      (connection.dispatch host event w).1.1 := by
  rw [dispatch_eq, visitsOfDispatch_eq]
  rcases hlease : connection.leaseFor host w with ⟨lease, leased⟩
  rcases hrun : ((host.pool lease.pool).read (host.enter leased).2).chain.run host.toChainHost
    ⟨event, connection.attributes, lease.inst⟩ (host.enter leased).2 with ⟨⟨outcome, pass⟩, w'⟩
  have htour := Chain.tour_run host.toChainHost
    ((host.pool lease.pool).read (host.enter leased).2).chain
    ⟨event, connection.attributes, lease.inst⟩ (host.enter leased).2
  rw [hrun] at htour
  refine .pass hlease rfl rfl htour ?_
  by_cases hsuspended : outcome = .ok .suspended
  · subst hsuspended
    rw [runPass_of_suspended hrun]
    rfl
  · rw [runPass_of_ended hsuspended hrun]

namespace Deals

variable {visits : List (StageVisit W S)} {visit : StageVisit W S} {answer : Answer}

/-- The first stage that is visited is shown the event and the attributes of the connection. -/
theorem of_head (h : connection.Deals host event w visits answer)
    (hhead : visits.head? = some visit) :
    visit.view.event = event ∧ visit.view.connection = connection.attributes := by
  cases h with
  | pass _ _ _ htour _ =>
    obtain ⟨-, hview⟩ := htour.of_head hhead
    rw [hview]
    exact ⟨rfl, rfl⟩

end Deals

theorem notes_abandon (host : ConnectionHost W S) (connection : Connection) :
    Notes (fun _ ↦ []) (connection.abandon host.visiting) (connection.abandon host) := by
  unfold abandon
  cases connection.suspended with
  | none => exact .pure _
  | some lease => exact (host.notes_release host.visit lease).after_quiet fun _ ↦ .pure _

/-- Closing visits what the close event leads to, after a suspended pass was given up. -/
theorem notes_close (host : ConnectionHost W S) (connection : Connection) :
    Notes (fun w ↦ (connection.abandon host w).1.visitsOfDispatch host { kind := .close }
        (connection.abandon host w).2)
      (connection.close host.visiting) (connection.close host) := by
  refine (notes_abandon host connection).after_quiet fun abandoned ↦
    (notes_dispatch host abandoned { kind := .close }).then_quiet ?_
  rintro ⟨answer, left⟩
  cases answer with
  | error panic => exact .pure _
  | ok reply => exact (notes_abandon host left).after_quiet fun _ ↦ .pure _

end Connection

/-! ### Passages -/

section Passage

variable {W S : Type}

/-- Where the instance of a pass is when the pass is over, and what the connection has kept. The pool
was `pool` when the pass began, and is `pool'` now. -/
inductive Passage.Ends (host : ConnectionHost W S) (ref : PoolRef) (pass : Pass) (pool : ChainPool S)
    (visits : List (StageVisit W S)) (answer : Connection.Answer) (left : Connection)
    (pool' : ChainPool S) : Prop where
  /-- No stage was left: the instance is back among the unused ones of the pool. -/
  | through (hvisits : visits = []) (hanswer : answer = .ok (.ok .invoke))
      (hattributes : left.attributes = pass.connection) (hleft : left.suspended = none)
      (hpool : pool' = pool.release pass.inst) (hidle : pass.inst.reset ∈ pool'.idle)
  /-- The last stage suspended the pass: the connection keeps the instance for the next one. -/
  | suspended (visit : StageVisit W S) (hlast : visits.getLast? = some visit)
      (hstage : visit.answer = .ok (.ok .suspend)) (hanswer : answer = .ok (.ok .suspend))
      (hattributes : left.attributes = visit.left.connection)
      (hleft : left.suspended = some ⟨ref, visit.onward⟩)
      (hpool : pool' = (host.pool ref).read visit.after)
  /-- The last stage ended the pass: the instance is back among the unused ones of the pool. -/
  | ended (visit : StageVisit W S) (inst : ChainInstance) (hlast : visits.getLast? = some visit)
      (hstage : visit.answer ≠ .ok (.ok .suspend)) (hanswer : answer ≠ .ok (.ok .suspend))
      (hattributes : left.attributes = visit.left.connection) (hleft : left.suspended = none)
      (hid : inst.id = visit.view.instanceId)
      (hpool : pool' = ((host.pool ref).read visit.after).release inst)
      (hidle : inst.reset ∈ pool'.idle)

/-- The account of a pass on an instance of a pool. -/
structure Passage (host : ConnectionHost W S) (ref : PoolRef) (chain : Chain S) (pass : Pass)
    (pool : ChainPool S) (visits : List (StageVisit W S)) (answer : Connection.Answer)
    (left : Connection) (pool' : ChainPool S) : Prop where
  /-- Stages are visited unless none is left. -/
  stages : visits = [] ↔ chain.stages.length ≤ pass.inst.cursor
  /-- The first one finds what the pass begins with, and the pool as it was. -/
  first : ∀ visit, visits.head? = some visit →
    visit.view = pass.view chain.name ∧ (host.pool ref).read visit.before = pool
  /-- The stages are those of the chain. -/
  known : ∀ visit ∈ visits, ∃ stage, chain.stages[visit.view.stageIndex]? = some stage ∧
    stage.tag = visit.tag
  /-- Nothing happens between visits. -/
  joined : visits.IsChain StageVisit.Joins
  /-- The instance is kept, or it is back in the pool. -/
  ends : Passage.Ends host ref pass pool visits answer left pool'

namespace ConnectionHost

/-- A pool can be relied on: it is a place of its own, which no worker shares. -/
structure Apart (host : ConnectionHost W S) (ref : PoolRef) : Prop where
  lawful : (host.pool ref).Lawful
  worker : ∀ worker content w,
    (host.pool ref).read ((host.worker worker).write content w) = (host.pool ref).read w

namespace Apart

variable {host : ConnectionHost W S} {ref : PoolRef} {w : W}

theorem read_changeCurrent (h : host.Apart ref) (change : W → Worker → Worker) (w : W) :
    (host.pool ref).read (host.changeCurrent change w).2 = (host.pool ref).read w := by
  simp only [WorkerHost.changeCurrent, bind, StateT.bind, Cell.get]
  cases (host.slot.read w).free? with
  | none => rfl
  | some worker => exact h.worker worker _ w

theorem read_enter (h : host.Apart ref) (w : W) :
    (host.pool ref).read (host.enter w).2 = (host.pool ref).read w :=
  h.read_changeCurrent _ w

theorem read_leave (h : host.Apart ref) (entered : Bool) (w : W) :
    (host.pool ref).read (host.leave entered w).2 = (host.pool ref).read w := by
  cases entered with
  | false => rfl
  | true => exact h.read_changeCurrent _ w

/-- An instance that is released is back in the pool, and nothing else is changed. -/
theorem read_release (h : host.Apart ref) (inst : ChainInstance) (w : W) :
    (host.pool ref).read (host.release ⟨ref, inst⟩ w).2 = ((host.pool ref).read w).release inst :=
  h.lawful.read_write _ _

/-- A unit of work that ends by returning an instance leaves it in the pool. -/
theorem read_leave_release (h : host.Apart ref) (entered : Bool) (inst : ChainInstance) (w : W) :
    (host.pool ref).read (host.leave entered (host.release ⟨ref, inst⟩ w).2).2 =
      ((host.pool ref).read w).release inst := by
  rw [h.read_leave, h.read_release]

/-- An instance that is acquired comes from the pool, and nothing else is changed. -/
theorem read_acquire (h : host.Apart ref) (w : W) :
    (host.acquire ref w).1 =
        ⟨ref, (ChainPool.acquire (host.registry w) ((host.pool ref).read w)).1⟩ ∧
      (host.pool ref).read (host.acquire ref w).2 =
        (ChainPool.acquire (host.registry w) ((host.pool ref).read w)).2 :=
  ⟨rfl, h.lawful.read_write _ _⟩

end Apart

end ConnectionHost

namespace Connection

variable {host : ConnectionHost W S} {ref : PoolRef} {chain : Chain S} {lease : Lease} {w : W}

/-- **A pass on a lease is a passage.** -/
theorem passage_runPass (hapart : host.Apart ref) (hlease : lease.pool = ref)
    (hchain : ((host.pool ref).read w).chain = chain) (connection : Connection) (event : Event) :
    Passage host ref chain ⟨event, connection.attributes, lease.inst⟩ ((host.pool ref).read w)
      (connection.visitsOfPass host event lease w) (connection.runPass host event lease w).1.1
      (connection.runPass host event lease w).1.2
      ((host.pool ref).read (connection.runPass host event lease w).2) := by
  subst hlease hchain
  have hread := hapart.read_enter w
  rcases hrun : ((host.pool lease.pool).read (host.enter w).2).chain.run host.toChainHost
    ⟨event, connection.attributes, lease.inst⟩ (host.enter w).2 with ⟨⟨outcome, pass⟩, w'⟩
  have htour : ((host.pool lease.pool).read (host.enter w).2).chain.Tour host.toChainHost
      ⟨event, connection.attributes, lease.inst⟩ (host.enter w).2
      (connection.visitsOfPass host event lease w) outcome pass w' := by
    have hwhole := Chain.tour_run host.toChainHost
      ((host.pool lease.pool).read (host.enter w).2).chain
      ⟨event, connection.attributes, lease.inst⟩ (host.enter w).2
    rwa [hrun] at hwhole
  rw [hread] at htour
  refine ⟨htour.eq_nil_iff, fun visit hhead ↦ ?_, fun _ ↦ htour.known, htour.joined, ?_⟩
  · obtain ⟨hbefore, hview⟩ := htour.of_head hhead
    rw [hbefore, hread]
    exact ⟨hview, rfl⟩
  generalize connection.visitsOfPass host event lease w = visits at htour ⊢
  rcases hlast : visits.getLast? with - | visit
  · -- Nobody was visited, so the instance goes back as it came.
    obtain rfl := List.getLast?_eq_none_iff.1 hlast
    obtain ⟨rfl, rfl, rfl⟩ := htour.of_nil
    have hended : (.ok .completed : Except Panic PassEnd) ≠ .ok .suspended := nofun
    rw [runPass_of_ended hended hrun]
    have hpool := hapart.read_leave_release (host.enter w).1 lease.inst (host.enter w).2
    rw [hread] at hpool
    exact .through rfl rfl rfl rfl hpool (hpool ▸ List.mem_cons_self)
  · have hleft := htour.of_getLast hlast
    by_cases hsuspended : outcome = .ok .suspended
    · subst hsuspended
      rw [runPass_of_suspended hrun]
      refine .suspended visit hlast (hleft.closed.suspended_iff.1 rfl) rfl hleft.connection ?_ ?_
      · rw [hleft.onward rfl]
      · rw [hapart.read_leave, hleft.state]
    · rw [runPass_of_ended hsuspended hrun]
      have hpool := hapart.read_leave_release (host.enter w).1 pass.inst w'
      rw [hleft.state] at hpool ⊢
      exact .ended visit pass.inst hlast (mt hleft.closed.suspended_iff.2 hsuspended)
        (mt answered_eq_suspend_iff.1 hsuspended) hleft.connection rfl hleft.id hpool
        (hpool ▸ List.mem_cons_self)

end Connection

end Passage

end Conduit
