import Conduit.Proofs.Chain.Uses
import Conduit.Proofs.Connection.Passage

/-!
# Turns of a connection

The turns of a connection are the operations on it, one after another: messages, events that resume a
suspended pass, and being closed. Before each turn anything may happen elsewhere, and to the attributes
of the connection. Whoever decides on the next turn knows all of what has happened so far.

Each turn is recorded together with its visits, as the noting host sees them. What a turn comes to is
said in terms of its record and of the last visit of the turn before (`Turn.Proper`): a suspended
connection goes on with the instance that this visit left, and any other one acquires an instance. The
invariant is that a connection holds a lease only if that visit suspended it, and then exactly the lease
that it left (`Connection.Stands`).
-/

namespace Conduit

/-! ### Operations and turns -/

/-- An operation on a connection. -/
inductive ConnectionOp where
  /-- A message has arrived. -/
  | message (message : Buffer)
  /-- A suspended pass is to go on with an event. -/
  | resume (event : Event)
  /-- The connection is closed. -/
  | close

namespace ConnectionOp

variable {W S : Type}

/-- The event that an operation brings. -/
def event : ConnectionOp → Event
  | .message buffer => .read buffer
  | .resume event => event
  | .close => { kind := .close }

/-- Carries out an operation. -/
def perform (host : ConnectionHost W S) (connection : Connection) :
    ConnectionOp → StateM W (Connection.Answer × Connection)
  | .message buffer => connection.handleMessage host buffer
  | .resume event => connection.resume host event
  | .close => connection.close host

/-- The operation runs its event through the chain, and leaves the connection open. -/
def Handles (connection : Connection) : ConnectionOp → Prop
  | .message _ => True
  | .resume _ => connection.isSuspended = true
  | .close => False

/-- An operation that runs its event deals with it and does nothing else. -/
theorem perform_of_handles {op : ConnectionOp} {connection : Connection} (h : op.Handles connection)
    (host : ConnectionHost W S) :
    op.perform host connection = connection.dispatch host op.event := by
  cases op with
  | message buffer => rfl
  | resume event => exact if_pos h
  | close => exact h.elim

theorem perform_of_rejected {connection : Connection} (h : connection.isSuspended = false)
    (host : ConnectionHost W S) (event : Event) :
    (resume event).perform host connection =
      pure (.ok (.error (Connection.notSuspendedFault connection.id)), connection) :=
  if_neg (by simp [h])

/-- The visits that an operation makes, as they are noted. -/
def visitsOf (host : ConnectionHost W S) (op : ConnectionOp) (connection : Connection) (w : W) :
    List (StageVisit W S) :=
  (op.perform host.visiting connection (w, [])).2.2

end ConnectionOp

/-- The record of an operation. -/
structure Turn (W S : Type) where
  /-- The operation. -/
  op : ConnectionOp
  /-- The connection as the operation found it. -/
  found : Connection
  /-- The state in which it began. -/
  start : W
  /-- The visits that it made. -/
  visits : List (StageVisit W S)
  /-- Its answer. -/
  answer : Connection.Answer
  /-- The connection as the operation left it. -/
  left : Connection
  /-- The state in which it ended. -/
  finish : W

/-- The pool once a suspended pass of the connection is given up. -/
def Connection.givenUp {S : Type} (connection : Connection) (pool : ChainPool S) : ChainPool S :=
  match connection.suspended with
  | none => pool
  | some lease => pool.release lease.inst

namespace Turn

variable {W S : Type}

/-- The record of an operation that finds the connection and the state like this. -/
def of (host : ConnectionHost W S) (op : ConnectionOp) (found : Connection) (start : W) : Turn W S :=
  let done := op.perform host found start
  ⟨op, found, start, op.visitsOf host found start, done.1.1, done.1.2, done.2⟩

/-- The last visit of the last turn. -/
def lastVisit? (previous : Option (StageVisit W S)) : List (Turn W S) → Option (StageVisit W S)
  | [] => previous
  | turn :: turns => lastVisit? turn.visits.getLast? turns

/-- What a turn comes to, after the last visit of the turn before. -/
structure Proper (host : ConnectionHost W S) (ref : PoolRef) (chain : Chain S)
    (previous : Option (StageVisit W S)) (turn : Turn W S) : Prop where
  /-- The connection is left suspended exactly when the answer says so. -/
  suspended_iff : turn.op.Handles turn.found →
    (turn.left.isSuspended = true ↔ turn.answer = .ok (.ok .suspend))
  /-- A suspended connection goes on with the instance that the last visit left, and acquires none. -/
  continued : turn.op.Handles turn.found → turn.found.isSuspended = true →
    ∃ visit, previous = some visit ∧ visit.answer = .ok (.ok .suspend) ∧
      Passage host ref chain ⟨turn.op.event, turn.found.attributes, visit.onward⟩
        ((host.pool ref).read turn.start) turn.visits turn.answer turn.left
        ((host.pool ref).read turn.finish)
  /-- Any other connection acquires an instance. -/
  begun : turn.op.Handles turn.found → turn.found.isSuspended = false →
    ∃ registry, Passage host ref chain
      ⟨turn.op.event, turn.found.attributes,
        (ChainPool.acquire registry ((host.pool ref).read turn.start)).1⟩
      (ChainPool.acquire registry ((host.pool ref).read turn.start)).2 turn.visits turn.answer
      turn.left ((host.pool ref).read turn.finish)
  /-- There is nothing to resume unless the connection is suspended. -/
  rejected : ∀ event, turn.op = .resume event → turn.found.isSuspended = false →
    turn.answer = .ok (.error (Connection.notSuspendedFault turn.found.id)) ∧ turn.visits = [] ∧
      turn.left = turn.found ∧ turn.finish = turn.start
  /-- A closed connection has nothing left, and has returned all its instances: the one of a suspended
  pass before it acquired one for the close event, and that one in the end. -/
  closed : turn.op = .close → ∀ reply, turn.answer = .ok reply →
    turn.left.suspended = none ∧ turn.left.attributes.Blank ∧
    ∃ registry left pool, Passage host ref chain
      ⟨{ kind := .close }, turn.found.attributes,
        (ChainPool.acquire registry (turn.found.givenUp ((host.pool ref).read turn.start))).1⟩
      (ChainPool.acquire registry (turn.found.givenUp ((host.pool ref).read turn.start))).2
      turn.visits turn.answer left pool ∧
      (host.pool ref).read turn.finish = left.givenUp pool

end Turn

/-- Carries out operations one after another, and records them. What comes next is decided by
`prepare`, which may do anything else before. -/
def ConnectionHost.turns {W S : Type} (host : ConnectionHost W S) :
    Connection → List (Connection → StateM W (StoreEdit × ConnectionOp)) → StateM W (List (Turn W S))
  | _, [] => pure []
  | connection, prepare :: rest => do
    let (edit, op) ← prepare connection
    let turn := Turn.of host op
      { connection with attributes := edit.apply connection.attributes } (← get)
    set turn.finish
    return turn :: (← host.turns turn.left rest)

/-! ### What connections rely on -/

/-- Stages change the attributes by the operations of a store, and what they do to the pool is to hand
out instances and to take them back. -/
structure ConnectionHost.Serves {W S : Type} (host : ConnectionHost W S) (ref : PoolRef)
    (chain : Chain S) : Prop extends host.Apart ref where
  process : ∀ tag view w, ((host.pool ref).read w).Tidy chain → view.Sound →
    ((host.pool ref).read (host.process tag view w).2).Tidy chain ∧
      (host.process tag view w).1.2.Sound

namespace Connection

variable {W S : Type} {host : ConnectionHost W S} {ref : PoolRef} {chain : Chain S}
  {connection : Connection} {event : Event} {lease : Lease} {w : W}

/-- A connection and a state between two turns. -/
structure Stands (host : ConnectionHost W S) (ref : PoolRef) (chain : Chain S)
    (connection : Connection) (w : W) : Prop where
  pool : connection.pool = ref
  tidy : ((host.pool ref).read w).Tidy chain
  attributes : connection.attributes.Sound
  suspended : ∀ lease, connection.suspended = some lease →
    lease.pool = ref ∧ lease.inst.invocation.Sound

namespace Stands

/-- A connection that runs a pass is left as it has to stand. -/
theorem runPass (hserves : host.Serves ref chain) (h : connection.Stands host ref chain w)
    (hlease : lease.pool = ref) (hsound : lease.inst.invocation.Sound) (event : Event) :
    (connection.runPass host event lease w).1.2.Stands host ref chain
      (connection.runPass host event lease w).2 := by
  subst hlease
  have hread := hserves.read_enter w
  have hchain : ((host.pool lease.pool).read (host.enter w).2).chain = chain := by
    rw [hread]
    exact h.tidy.chain_eq
  rcases hrun : ((host.pool lease.pool).read (host.enter w).2).chain.run host.toChainHost
    ⟨event, connection.attributes, lease.inst⟩ (host.enter w).2 with ⟨⟨outcome, pass⟩, w'⟩
  obtain ⟨htidy, hconnection, hinvocation⟩ := ChainHost.tidy_run hserves.process
    ⟨event, connection.attributes, lease.inst⟩ (hread ▸ h.tidy) h.attributes hsound
  rw [← hchain, hrun] at htidy hconnection hinvocation
  rw [hchain] at htidy
  by_cases hsuspended : outcome = .ok .suspended
  · subst hsuspended
    rw [runPass_of_suspended hrun]
    refine ⟨h.pool, ?_, hconnection, fun other hother ↦ ?_⟩
    · rwa [hserves.read_leave]
    · obtain rfl := Option.some.inj hother
      exact ⟨rfl, hinvocation⟩
  · rw [runPass_of_ended hsuspended hrun]
    refine ⟨h.pool, ?_, hconnection, nofun⟩
    rw [hserves.read_leave, hserves.read_release]
    exact htidy.release hinvocation

theorem dispatch (hserves : host.Serves ref chain) (h : connection.Stands host ref chain w)
    (event : Event) :
    (connection.dispatch host event w).1.2.Stands host ref chain
      (connection.dispatch host event w).2 := by
  unfold Connection.dispatch
  rcases hsuspended : connection.suspended with - | lease
  · obtain ⟨hlease, hread⟩ := hserves.read_acquire w
    obtain ⟨htidy, hsound⟩ := h.tidy.acquire (host.registry w)
    obtain rfl := h.pool
    have hacquired : connection.Stands host connection.pool chain (host.acquire connection.pool w).2 :=
      ⟨rfl, hread ▸ htidy, h.attributes, h.suspended⟩
    exact hacquired.runPass hserves (hlease ▸ rfl) (hlease ▸ hsound) event
  · obtain ⟨hlease, hsound⟩ := h.suspended lease hsuspended
    exact h.runPass hserves hlease hsound event

/-- Giving up a suspended pass returns its instance, and changes nothing else. -/
theorem abandon_eq (hapart : host.Apart ref) (h : connection.Stands host ref chain w) :
    (connection.abandon host w).1 = { connection with suspended := none } ∧
      (host.pool ref).read (connection.abandon host w).2 =
        connection.givenUp ((host.pool ref).read w) := by
  obtain ⟨id, attributes, pool, - | lease⟩ := connection
  · exact ⟨rfl, rfl⟩
  · obtain ⟨rfl, -⟩ := h.suspended lease rfl
    exact ⟨rfl, hapart.read_release lease.inst w⟩

theorem abandon (hserves : host.Serves ref chain) (h : connection.Stands host ref chain w) :
    (connection.abandon host w).1.Stands host ref chain (connection.abandon host w).2 := by
  obtain ⟨hconnection, hread⟩ := h.abandon_eq hserves.toApart
  rw [hconnection]
  refine ⟨h.pool, ?_, h.attributes, nofun⟩
  rw [hread, givenUp]
  split
  · exact h.tidy
  · next lease hsuspended => exact h.tidy.release (h.suspended lease hsuspended).2

/-! ### Passages of the operations -/

/-- A suspended connection deals with an event in the pass that is suspended. -/
theorem passage_of_suspended (hapart : host.Apart ref) (h : connection.Stands host ref chain w)
    (hsuspended : connection.suspended = some lease) (event : Event) :
    Passage host ref chain ⟨event, connection.attributes, lease.inst⟩ ((host.pool ref).read w)
      (connection.visitsOfDispatch host event w) (connection.dispatch host event w).1.1
      (connection.dispatch host event w).1.2
      ((host.pool ref).read (connection.dispatch host event w).2) := by
  simp only [Connection.dispatch, visitsOfDispatch, hsuspended]
  exact passage_runPass hapart (h.suspended lease hsuspended).1 h.tidy.chain_eq connection event

/-- Any other connection acquires an instance. -/
theorem passage_of_none (hapart : host.Apart ref) (h : connection.Stands host ref chain w)
    (hsuspended : connection.suspended = none) (event : Event) :
    Passage host ref chain
      ⟨event, connection.attributes,
        (ChainPool.acquire (host.registry w) ((host.pool ref).read w)).1⟩
      (ChainPool.acquire (host.registry w) ((host.pool ref).read w)).2
      (connection.visitsOfDispatch host event w) (connection.dispatch host event w).1.1
      (connection.dispatch host event w).1.2
      ((host.pool ref).read (connection.dispatch host event w).2) := by
  simp only [Connection.dispatch, visitsOfDispatch, hsuspended]
  obtain rfl := h.pool
  have hread := (hapart.read_acquire w).2
  have htidy := (h.tidy.acquire (host.registry w)).1
  rw [← hread] at htidy ⊢
  have hlease : (host.acquire connection.pool w).1.pool = connection.pool := rfl
  exact passage_runPass hapart hlease htidy.chain_eq connection event

/-! ### Closing -/

/-- A close whose pass unwinds is over with that pass. -/
theorem close_of_error {abandoned left : Connection} {panic : Panic} {w₁ w₂ : W}
    (habandon : connection.abandon host w = (abandoned, w₁))
    (hdispatch : abandoned.dispatch host { kind := .close } w₁ = ((.error panic, left), w₂)) :
    connection.close host w = ((.error panic, left), w₂) := by
  simp only [Connection.close, bind, StateT.bind, habandon, hdispatch]
  rfl

/-- A close whose pass is over gives up what is suspended again, and clears the attributes. -/
theorem close_of_ok {abandoned left : Connection} {reply : Except Fault Directive} {w₁ w₂ : W}
    (habandon : connection.abandon host w = (abandoned, w₁))
    (hdispatch : abandoned.dispatch host { kind := .close } w₁ = ((.ok reply, left), w₂)) :
    connection.close host w =
      ((.ok reply, { (left.abandon host w₂).1 with
        attributes := (left.abandon host w₂).1.attributes.clear }), (left.abandon host w₂).2) := by
  simp only [Connection.close, bind, StateT.bind, habandon, hdispatch]
  rfl

/-- A connection that is closed is left as it has to stand, whatever came of its pass. -/
theorem close (hserves : host.Serves ref chain) (h : connection.Stands host ref chain w) :
    (connection.close host w).1.2.Stands host ref chain (connection.close host w).2 := by
  have hleft := (h.abandon hserves).dispatch hserves { kind := .close }
  rcases habandon : connection.abandon host w with ⟨abandoned, w₁⟩
  rcases hdispatch : abandoned.dispatch host { kind := .close } w₁ with ⟨⟨answer, left⟩, w₂⟩
  rw [habandon, hdispatch] at hleft
  cases answer with
  | error panic =>
    rw [close_of_error habandon hdispatch]
    exact hleft
  | ok reply =>
    rw [close_of_ok habandon hdispatch]
    have hgiven := hleft.abandon hserves
    exact ⟨hgiven.pool, hgiven.tidy, hgiven.attributes.blank_clear.sound, hgiven.suspended⟩

/-- **Every operation leaves a connection as it has to stand**. -/
theorem perform (hserves : host.Serves ref chain) (h : connection.Stands host ref chain w)
    (op : ConnectionOp) :
    (op.perform host connection w).1.2.Stands host ref chain (op.perform host connection w).2 := by
  cases op with
  | message buffer => exact h.dispatch hserves (.read buffer)
  | resume event =>
    by_cases hsuspended : connection.isSuspended = true
    · have hhandles : (ConnectionOp.resume event).Handles connection := hsuspended
      rw [ConnectionOp.perform_of_handles hhandles]
      exact h.dispatch hserves event
    · rw [ConnectionOp.perform_of_rejected (Bool.eq_false_iff.2 hsuspended)]
      exact h
  | close => exact h.close hserves

end Stands

end Connection

/-! ### Turn by turn -/

section Turns

variable {W S : Type} {host : ConnectionHost W S} {ref : PoolRef} {chain : Chain S}
  {connection found : Connection} {op : ConnectionOp} {previous : Option (StageVisit W S)} {w : W}

/-- A suspended connection holds the lease that the last visit left. -/
def Connection.Follows (connection : Connection) (previous : Option (StageVisit W S)) : Prop :=
  ∀ lease, connection.suspended = some lease →
    ∃ visit, previous = some visit ∧ visit.answer = .ok (.ok .suspend) ∧ lease.inst = visit.onward

namespace Passage

variable {pass : Pass} {pool pool' : ChainPool S} {visits : List (StageVisit W S)}
  {answer : Connection.Answer} {left : Connection}

/-- A connection that is left suspended holds the lease that the last visit left. -/
theorem follows (h : Passage host ref chain pass pool visits answer left pool') :
    left.Follows visits.getLast? := by
  intro lease hlease
  cases h.ends with
  | through _ _ _ hleft _ =>
    rw [hleft] at hlease
    cases hlease
  | suspended visit hlast hstage _ _ hleft _ =>
    rw [hleft] at hlease
    obtain rfl := Option.some.inj hlease
    exact ⟨visit, hlast, hstage, rfl⟩
  | ended _ _ _ _ _ _ hleft _ _ =>
    rw [hleft] at hlease
    cases hlease

/-- A connection is left suspended just when the answer says so. -/
theorem suspended_iff (h : Passage host ref chain pass pool visits answer left pool') :
    left.isSuspended = true ↔ answer = .ok (.ok .suspend) := by
  unfold Connection.isSuspended
  cases h.ends with
  | through _ hanswer _ hleft _ => simp [hleft, hanswer]
  | suspended _ _ _ hanswer _ hleft _ => simp [hleft, hanswer]
  | ended _ _ _ _ hanswer _ hleft _ _ => simp [hleft, hanswer]

end Passage

namespace Turn

theorem of_handles (h : op.Handles found) (w : W) :
    Turn.of host op found w =
      ⟨op, found, w, found.visitsOfDispatch host op.event w, (found.dispatch host op.event w).1.1,
        (found.dispatch host op.event w).1.2, (found.dispatch host op.event w).2⟩ := by
  have hvisits := (found.notes_dispatch host op.event).eq w
  simp only [Turn.of, ConnectionOp.visitsOf, ConnectionOp.perform_of_handles h, hvisits]

theorem of_rejected (h : found.isSuspended = false) (event : Event) (w : W) :
    Turn.of host (.resume event) found w =
      ⟨.resume event, found, w, [], .ok (.error (Connection.notSuspendedFault found.id)), found, w⟩ := by
  simp only [Turn.of, ConnectionOp.visitsOf, ConnectionOp.perform_of_rejected h]
  rfl

/-- A turn that runs an event through the chain. -/
theorem proper_of_handles (hserves : host.Serves ref chain) (h : found.Stands host ref chain w)
    (hfollows : found.Follows previous) (hhandles : op.Handles found) :
    (Turn.of host op found w).Proper host ref chain previous ∧
      (Turn.of host op found w).left.Follows (Turn.of host op found w).visits.getLast? := by
  rw [of_handles hhandles]
  have hclose : op ≠ .close := by
    rintro rfl
    exact hhandles
  have hresume : ∀ event, op = .resume event → found.isSuspended = true := by
    rintro event rfl
    exact hhandles
  rcases hsuspended : found.suspended with - | lease
  · have hpassage := h.passage_of_none hserves.toApart hsuspended op.event
    have hfalse : found.isSuspended = false := by rw [Connection.isSuspended, hsuspended]; rfl
    refine ⟨⟨fun _ ↦ hpassage.suspended_iff, fun _ htrue ↦ ?_, fun _ _ ↦ ⟨_, hpassage⟩,
      fun event hop _ ↦ ?_, fun hop ↦ absurd hop hclose⟩, hpassage.follows⟩
    · rw [hfalse] at htrue
      cases htrue
    · rw [hresume event hop] at hfalse
      cases hfalse
  · have hpassage := h.passage_of_suspended hserves.toApart hsuspended op.event
    obtain ⟨visit, hprevious, hanswer, hinst⟩ := hfollows lease hsuspended
    have htrue : found.isSuspended = true := by rw [Connection.isSuspended, hsuspended]; rfl
    refine ⟨⟨fun _ ↦ hpassage.suspended_iff,
      fun _ _ ↦ ⟨visit, hprevious, hanswer, hinst ▸ hpassage⟩, fun _ hfalse ↦ ?_,
      fun event hop hfalse ↦ ?_, fun hop ↦ absurd hop hclose⟩, hpassage.follows⟩
    all_goals
      rw [htrue] at hfalse
      cases hfalse

/-- A turn in which there is nothing to resume. -/
theorem proper_of_rejected (hsuspended : found.isSuspended = false)
    (event : Event) :
    (Turn.of host (.resume event) found w).Proper host ref chain previous ∧
      (Turn.of host (.resume event) found w).left.Follows
        (Turn.of host (.resume event) found w).visits.getLast? := by
  rw [of_rejected hsuspended]
  have hhandles : ¬(ConnectionOp.resume event).Handles found := by
    intro htrue
    rw [ConnectionOp.Handles, hsuspended] at htrue
    cases htrue
  refine ⟨⟨fun h ↦ absurd h hhandles, fun h ↦ absurd h hhandles, fun h ↦ absurd h hhandles,
    fun _ _ _ ↦ ⟨rfl, rfl, rfl, rfl⟩, nofun⟩, fun lease hlease ↦ ?_⟩
  rw [Connection.isSuspended, hlease] at hsuspended
  cases hsuspended

/-- A turn in which the connection is closed. -/
theorem proper_of_close (hserves : host.Serves ref chain) (h : found.Stands host ref chain w) :
    (Turn.of host .close found w).Proper host ref chain previous ∧
      (Turn.of host .close found w).left.Follows (Turn.of host .close found w).visits.getLast? := by
  -- The suspended pass is given up first, so the close event is dealt with on an acquired instance.
  have hnoted := (found.notes_close host).eq w
  obtain ⟨hgiven, hread⟩ := h.abandon_eq hserves.toApart
  have hleft := (h.abandon hserves).dispatch hserves { kind := .close }
  have hpassage := (h.abandon hserves).passage_of_none hserves.toApart (by rw [hgiven])
    { kind := .close }
  rcases habandon : found.abandon host w with ⟨abandoned, w₁⟩
  rw [habandon] at hgiven hread hleft hpassage hnoted
  obtain rfl : abandoned = { found with suspended := none } := hgiven
  rcases hdispatch : ({ found with suspended := none } : Connection).dispatch host
    { kind := .close } w₁ with ⟨⟨answer, left⟩, w₂⟩
  rw [hdispatch] at hleft hpassage
  rw [hread] at hpassage
  have hturn : Turn.of host .close found w =
      ⟨.close, found, w, Connection.visitsOfDispatch host { found with suspended := none }
        { kind := .close } w₁, (found.close host w).1.1, (found.close host w).1.2,
        (found.close host w).2⟩ := by
    simp only [Turn.of, ConnectionOp.visitsOf, ConnectionOp.perform, hnoted]
  rw [hturn]
  cases answer with
  | error panic =>
    rw [Connection.Stands.close_of_error habandon hdispatch]
    exact ⟨⟨nofun, nofun, nofun, nofun, fun _ _ hanswer ↦ nomatch hanswer⟩, hpassage.follows⟩
  | ok reply =>
    rw [Connection.Stands.close_of_ok habandon hdispatch]
    obtain ⟨hempty, hreturned⟩ := hleft.abandon_eq hserves.toApart
    rw [hempty]
    exact ⟨⟨nofun, nofun, nofun, nofun, fun _ _ _ ↦
      ⟨rfl, hleft.attributes.blank_clear, host.registry w₁, left, (host.pool ref).read w₂, hpassage,
        hreturned⟩⟩, nofun⟩

/-- **Every turn is proper**, and the connection is left as its last visit left it. -/
theorem proper_of (hserves : host.Serves ref chain) (h : found.Stands host ref chain w)
    (hfollows : found.Follows previous) (op : ConnectionOp) :
    (Turn.of host op found w).Proper host ref chain previous ∧
      (Turn.of host op found w).left.Follows (Turn.of host op found w).visits.getLast? := by
  cases op with
  | message buffer => exact proper_of_handles hserves h hfollows trivial
  | resume event =>
    by_cases hsuspended : found.isSuspended = true
    · exact proper_of_handles hserves h hfollows hsuspended
    · exact proper_of_rejected (Bool.eq_false_iff.2 hsuspended) event
  | close => exact proper_of_close hserves h

end Turn

namespace ConnectionHost

/-- The records of operations, by the first one. -/
theorem turns_cons {prepare : Connection → StateM W (StoreEdit × ConnectionOp)}
    {rest : List (Connection → StateM W (StoreEdit × ConnectionOp))} {edit : StoreEdit} {w₁ : W}
    (hprepare : prepare connection w = ((edit, op), w₁)) :
    (host.turns connection (prepare :: rest) w).1 =
      let turn := Turn.of host op
        { connection with attributes := edit.apply connection.attributes } w₁
      turn :: (host.turns turn.left rest turn.finish).1 := by
  simp only [turns, bind, StateT.bind, hprepare]
  rfl

/-- **Induction along the turns.** What holds of every turn that finds the connection as the last visit
left it holds of all the turns of such a connection. -/
theorem turns_induction (hserves : host.Serves ref chain)
    {motive : Option (StageVisit W S) → Turn W S → Prop}
    (hturn : ∀ {found : Connection} {previous : Option (StageVisit W S)} {w : W},
      found.Stands host ref chain w → found.Follows previous → ∀ op,
        motive previous (Turn.of host op found w))
    (preparations : List (Connection → StateM W (StoreEdit × ConnectionOp)))
    (hprepared : ∀ prepare ∈ preparations, ∀ connection w,
      ((host.pool ref).read w).Tidy chain → ((host.pool ref).read (prepare connection w).2).Tidy chain)
    (h : connection.Stands host ref chain w) (hfollows : connection.Follows previous)
    {earlier later : List (Turn W S)} {turn : Turn W S}
    (hturns : (host.turns connection preparations w).1 = earlier ++ turn :: later) :
    motive (Turn.lastVisit? previous earlier) turn := by
  -- The connection follows the last visit of the turn before, which is what carries the induction.
  induction preparations generalizing connection w previous earlier with
  | nil => cases earlier <;> cases hturns
  | cons prepare rest ih =>
    rcases hprepare : prepare connection w with ⟨⟨edit, op⟩, w₁⟩
    have htidy := hprepared prepare List.mem_cons_self connection w h.tidy
    rw [hprepare] at htidy
    have hfound : Connection.Stands host ref chain
        { connection with attributes := edit.apply connection.attributes } w₁ :=
      ⟨h.pool, htidy, edit.sound _ h.attributes, h.suspended⟩
    rw [turns_cons hprepare] at hturns
    rcases earlier with - | ⟨first, earlier⟩
    · obtain ⟨rfl, -⟩ := List.cons_eq_cons.1 hturns
      exact hturn hfound hfollows op
    · obtain ⟨rfl, hrest⟩ := List.cons_eq_cons.1 hturns
      exact ih (fun prepare hmem ↦ hprepared prepare (List.mem_cons_of_mem _ hmem))
        (hfound.perform hserves op) (Turn.proper_of hserves hfound hfollows op).2 hrest

/-- Turns of a connection that stands as the last visit left it. -/
theorem proper_turns_of_stands (hserves : host.Serves ref chain)
    (preparations : List (Connection → StateM W (StoreEdit × ConnectionOp)))
    (hprepared : ∀ prepare ∈ preparations, ∀ connection w,
      ((host.pool ref).read w).Tidy chain → ((host.pool ref).read (prepare connection w).2).Tidy chain)
    (h : connection.Stands host ref chain w) (hfollows : connection.Follows previous)
    {earlier later : List (Turn W S)} {turn : Turn W S}
    (hturns : (host.turns connection preparations w).1 = earlier ++ turn :: later) :
    turn.Proper host ref chain (Turn.lastVisit? previous earlier) :=
  turns_induction hserves (fun hfound hfollows op ↦ (Turn.proper_of hserves hfound hfollows op).1)
    preparations hprepared h hfollows hturns

/-- **Every turn of a connection is proper.** -/
theorem proper_turns (hserves : host.Serves ref chain)
    (preparations : List (Connection → StateM W (StoreEdit × ConnectionOp)))
    (hprepared : ∀ prepare ∈ preparations, ∀ connection w,
      ((host.pool ref).read w).Tidy chain → ((host.pool ref).read (prepare connection w).2).Tidy chain)
    (htidy : ((host.pool ref).read w).Tidy chain) (id : ConnectionId) (registry : Registry)
    (earlier later : List (Turn W S)) (turn : Turn W S)
    (hturns : (host.turns (Connection.new id ref registry) preparations w).1 =
      earlier ++ turn :: later) :
    turn.Proper host ref chain (Turn.lastVisit? none earlier) := by
  have hnone : (Connection.new id ref registry).suspended = none := rfl
  refine proper_turns_of_stands hserves preparations hprepared
    ⟨rfl, htidy, (AttributeStore.blank_new registry).sound, fun lease hlease ↦ ?_⟩
    (fun lease hlease ↦ ?_) hturns
  all_goals
    rw [hnone] at hlease
    cases hlease

/-- A thread without a worker, and a single pool, whose stages answer with their tags. -/
def obedient : ConnectionHost (ChainPool Directive) Directive where
  toChainHost := ChainHost.obedient
  slot :=
    { read := fun _ ↦ {}
      write := fun _ pool ↦ pool }
  worker _ :=
    { read := fun _ ↦ default
      write := fun _ pool ↦ pool }
  now _ _ := 0

/-- Stages that just give an answer can be relied on. -/
theorem serves_obedient (chain : Chain Directive) : obedient.Serves ⟨0⟩ chain where
  lawful := ⟨fun _ _ ↦ rfl, fun _ ↦ rfl, fun _ _ _ ↦ rfl⟩
  worker _ _ _ := rfl
  process _ _ _ htidy hview := ⟨htidy, hview⟩

/-- A message that the first stage suspends, and then the end of the connection. -/
theorem proper_turns_suspendThenClose :
    let chain : Chain Directive :=
      ⟨"greeting", [⟨"wait", .suspend⟩, ⟨"reply", .invoke⟩], { maxConsecutiveReruns := 3 }⟩
    let prepare (op : ConnectionOp) :
        Connection → StateM (ChainPool Directive) (StoreEdit × ConnectionOp) :=
      fun _ ↦ pure (⟨id, fun _ h ↦ h⟩, op)
    let new := Connection.new ⟨7⟩ ⟨0⟩ (.new 1 16)
    let message := Turn.of obedient (.message .empty) new { chain }
    let closing := Turn.of obedient .close message.left message.finish
    ((ChainPool.Tidy chain { chain }) ∧
      (obedient.turns new [prepare (.message .empty), prepare .close] { chain }).1 =
        [message] ++ closing :: []) ∧
      closing.Proper obedient ⟨0⟩ chain (Turn.lastVisit? none [message]) := by
  intro chain prepare new message closing
  have hturns : (obedient.turns new [prepare (.message .empty), prepare .close] { chain }).1 =
      [message] ++ closing :: [] := rfl
  have hprepared : ∀ prepare' ∈ [prepare (.message .empty), prepare .close], ∀ connection w,
      ChainPool.Tidy chain w → ChainPool.Tidy chain (prepare' connection w).2 := by
    intro prepare' hmem connection w htidy
    rcases List.mem_cons.1 hmem with rfl | hmem
    · exact htidy
    · obtain rfl := List.mem_singleton.1 hmem
      exact htidy
  exact ⟨⟨ChainPool.tidy_new chain, hturns⟩, proper_turns (serves_obedient chain) _ hprepared
    (ChainPool.tidy_new chain) ⟨7⟩ (.new 1 16) [message] [] closing hturns⟩

end ConnectionHost

end Turns

end Conduit
