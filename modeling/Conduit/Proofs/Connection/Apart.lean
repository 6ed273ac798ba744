import Conduit.Proofs.Chain.Pool
import Conduit.Proofs.Chain.Run
import Conduit.Proofs.Connection.Drivers
import Mathlib

/-!
# Connections do not disturb each other

Two runs are followed side by side, one of which lacks the operations of a connection. The pools of the
two may hold different instances, and different numbers of them; all that is known of both is that their
unused instances are as new (`SharedWorld.Ready`). It is enough: whatever instance a connection gets in
one run and in the other, they cannot be told apart (`Lease.Alike`), a pass on the one goes like a pass
on the other, and what is returned to the pools is as new again.

An instance that is returned is cleared, but its attributes go on belonging to the registry to which they
belong. So the stages have to leave them to the registry of the pool (`StageRule.KeepInvocations`);
`not_forall_seenBy` has a stage that does not.

`SharedWorld.Agrees` states this for one action in both runs, and composes along the operations.
-/

namespace Conduit

/-! ### What cannot be told apart -/

section Alike

variable (bindings : Set (Option Nat)) (id : Nat)

/-- Two instances in the same state, but for their numbers and the slots provided for. Their attributes
belong to the registry of the given number. -/
structure ChainInstance.Alike (inst other : ChainInstance) : Prop where
  cursor : inst.cursor = other.cursor
  consecutiveReruns : inst.consecutiveReruns = other.consecutiveReruns
  invocation : inst.invocation.Alike other.invocation
  registry : inst.invocation.registry = some id

/-- Two passes in the same state. -/
structure Pass.Alike (pass other : Pass) : Prop where
  event : pass.event = other.event
  connection : pass.connection.Alike other.connection
  binding : pass.connection.registry ∈ bindings
  inst : pass.inst.Alike id other.inst

/-- Two leases in the same state. -/
def Lease.Alike (lease other : Lease) : Prop :=
  lease.inst.Alike id other.inst

/-- Two connections in the same state. -/
structure Connection.Alike (connection other : Connection) : Prop where
  id_eq : connection.id = other.id
  attributes : connection.attributes.Alike other.attributes
  binding : connection.attributes.registry ∈ bindings
  suspended : Option.Rel (Lease.Alike id) connection.suspended other.suspended

end Alike

variable {bindings : Set (Option Nat)} {id : Nat}

theorem ChainInstance.Alike.symm {inst other : ChainInstance} (h : inst.Alike id other) :
    other.Alike id inst :=
  ⟨h.cursor.symm, h.consecutiveReruns.symm, h.invocation.symm,
    h.invocation.registry_eq.symm.trans h.registry⟩

theorem Lease.Alike.symm {lease other : Lease} (h : lease.Alike id other) : other.Alike id lease :=
  ChainInstance.Alike.symm h

theorem Connection.Alike.isSuspended_eq {connection other : Connection}
    (h : connection.Alike bindings id other) : connection.isSuspended = other.isSuspended := by
  have hsuspended := h.suspended
  unfold Connection.isSuspended
  generalize connection.suspended = held at hsuspended
  generalize other.suspended = held' at hsuspended
  cases hsuspended <;> rfl

namespace Pass.Alike

variable {pass other : Pass}

/-- A stage is shown the same in both. -/
theorem view (h : pass.Alike bindings id other) (chainName : String) :
    (pass.view chainName).Alike (other.view chainName) :=
  ⟨h.event, h.connection, h.inst.invocation⟩

/-- The stores that it is shown are within the bindings. -/
theorem within (h : pass.Alike bindings id other) (chainName : String) :
    (pass.view chainName).Within bindings id :=
  ⟨h.binding, h.inst.registry⟩

/-- What a stage leaves of the view is put back alike. -/
theorem update (h : pass.Alike bindings id other) {view view' : StageView} (hview : view.Alike view')
    (hwithin : view.Within bindings id) : (pass.update view).Alike bindings id (other.update view') :=
  ⟨hview.event, hview.connection, hwithin.connection, h.inst.cursor, h.inst.consecutiveReruns,
    hview.invocation, hwithin.invocation⟩

/-- Both go on to the next stage. -/
theorem step (h : pass.Alike bindings id other) : pass.step.Alike bindings id other.step :=
  ⟨h.event, h.connection, h.binding, congrArg (· + 1) h.inst.cursor, rfl, h.inst.invocation,
    h.inst.registry⟩

/-- Both ask the same stage again. -/
theorem again (h : pass.Alike bindings id other) : pass.again.Alike bindings id other.again :=
  ⟨h.event, h.connection, h.binding, h.inst.cursor, congrArg (· + 1) h.inst.consecutiveReruns,
    h.inst.invocation, h.inst.registry⟩

/-- What a pass leaves behind is alike, whatever it came to. -/
theorem leftBy (h : pass.Alike bindings id other) (outcome : Except Panic PassEnd) :
    (pass.leftBy outcome).Alike bindings id (other.leftBy outcome) := by
  unfold Pass.leftBy
  split
  · exact h.step
  · exact h

end Pass.Alike

/-- Whatever stage is called, what it leaves stays within the bindings. -/
abbrev StageRule.StayWithin {S : Type} (stages : S → StageRule) (bindings : Set (Option Nat))
    (id : Nat) : Prop :=
  ∀ tag view, view.Within bindings id → ((stages tag).apply view).2.Within bindings id

/-- A pass goes in the same way from either of two states that cannot be told apart. -/
theorem Chain.run_alike {S : Type} {stages : S → StageRule}
    (hstages : StageRule.StayWithin stages bindings id) (chain : Chain S) {pass other : Pass}
    (h : pass.Alike bindings id other) (w v : SharedWorld S) :
    ∃ outcome left left', chain.run (SharedWorld.host stages).toChainHost pass w = ((outcome, left), w) ∧
      chain.run (SharedWorld.host stages).toChainHost other v = ((outcome, left'), v) ∧
      left.Alike bindings id left' := by
  induction pass using chain.pass_induction generalizing other with
  | ended pass hcursor =>
    refine ⟨_, pass, other, run_of_le _ hcursor w, run_of_le _ ?_ v, h⟩
    rwa [← h.inst.cursor]
  | atStage pass hcursor ihNext ihSame =>
    have hcursor' : other.inst.cursor < chain.stages.length := h.inst.cursor ▸ hcursor
    have hstage : chain.stages[other.inst.cursor] = chain.stages[pass.inst.cursor] := by
      simp only [h.inst.cursor]
    obtain ⟨hanswer, hview⟩ := (stages chain.stages[pass.inst.cursor].tag).respects _ _
      (h.view chain.name) h.inst.cursor rfl
    have hwithin := hstages chain.stages[pass.inst.cursor].tag _ (h.within chain.name)
    rcases hasked : (stages chain.stages[pass.inst.cursor].tag).apply (pass.view chain.name) with
      ⟨answer, view⟩
    rcases hasked' : (stages chain.stages[pass.inst.cursor].tag).apply (other.view chain.name) with
      ⟨answer', view'⟩
    rw [hasked, hasked'] at hanswer hview
    rw [hasked] at hwithin
    obtain rfl : answer = answer' := hanswer
    have hupdate := h.update hview hwithin
    rw [run_of_lt hcursor (congrArg (·, w) hasked),
      run_of_lt hcursor' (congrArg (·, v) (hstage ▸ hasked')), hstage, ← h.inst.cursor,
      ← h.inst.consecutiveReruns]
    cases hjudge : chain.judge pass.inst.cursor chain.stages[pass.inst.cursor]
        pass.inst.consecutiveReruns answer with
    | next => exact ihNext view hupdate.step
    | same => exact ihSame (reruns_lt_of_judge_eq_same hjudge) view hupdate.again
    | finish outcome => exact ⟨outcome, _, _, rfl, rfl, hupdate.leftBy outcome⟩

/-! ### Worlds -/

namespace SharedWorld

variable {S A B A' B' : Type} {chain : Chain S}

/-- The unused instances of a pool are as new ones, and belong to the registry of the given number. -/
structure Ready (w : SharedWorld S) (chain : Chain S) (id : Nat) : Prop where
  chain_eq : w.pool.chain = chain
  idle : ∀ inst ∈ w.pool.idle, inst.Rested ∧ inst.invocation.registry = some id
  registry : w.around.registry.id = id

/-- Two actions in worlds that are ready give related answers, and leave the worlds ready. -/
def Agrees (chain : Chain S) (id : Nat) (R : A → B → Prop) (x : StateM (SharedWorld S) A)
    (y : StateM (SharedWorld S) B) : Prop :=
  ∀ w v, w.Ready chain id → v.Ready chain id →
    R (x w).1 (y v).1 ∧ (x w).2.Ready chain id ∧ (y v).2.Ready chain id

namespace Agrees

variable {R : A → B → Prop} {Q : A' → B' → Prop}

theorem pure {a : A} {b : B} (h : R a b) : Agrees chain id R (pure a) (pure b) :=
  fun _ _ hw hv ↦ ⟨h, hw, hv⟩

theorem bind {x : StateM (SharedWorld S) A} {y : StateM (SharedWorld S) B}
    {f : A → StateM (SharedWorld S) A'} {g : B → StateM (SharedWorld S) B'}
    (h : Agrees chain id R x y) (hnext : ∀ a b, R a b → Agrees chain id Q (f a) (g b)) :
    Agrees chain id Q (x >>= f) (y >>= g) := by
  intro w v hw hv
  obtain ⟨hR, hw', hv'⟩ := h w v hw hv
  exact hnext _ _ hR _ _ hw' hv'

end Agrees

theorem agrees_get : Agrees chain id (fun w v : SharedWorld S ↦ w.Ready chain id ∧ v.Ready chain id)
    get get :=
  fun _ _ hw hv ↦ ⟨⟨hw, hv⟩, hw, hv⟩

/-! ### Units of work -/

variable {stages : S → StageRule}

/-- What is done to the worker of the thread does not concern the pool and the registry. -/
theorem changeCurrent_keeps (stages : S → StageRule) (change : SharedWorld S → Worker → Worker)
    (w : SharedWorld S) :
    ((host stages).changeCurrent change w).2.pool = w.pool ∧
      ((host stages).changeCurrent change w).2.around.registry = w.around.registry := by
  simp only [WorkerHost.changeCurrent, bind, StateT.bind, Cell.get]
  cases (WorkerSlot.free? ((host stages).slot.read w)) <;> exact ⟨rfl, rfl⟩

/-- A world in which neither the pool nor the number of the registry has changed stays ready. -/
theorem Ready.of_keeps {w w' : SharedWorld S} (h : w.Ready chain id) (hpool : w'.pool = w.pool)
    (hregistry : w'.around.registry.id = w.around.registry.id) : w'.Ready chain id := by
  refine ⟨?_, ?_, hregistry.trans h.registry⟩
  · rw [hpool]
    exact h.chain_eq
  · rw [hpool]
    exact h.idle

/-- Whatever is announced to the worker of the thread, the pools are not concerned. -/
theorem agrees_changeCurrent (change change' : SharedWorld S → Worker → Worker) :
    Agrees chain id (fun _ _ ↦ True) ((host stages).changeCurrent change)
      ((host stages).changeCurrent change') := by
  intro w v hw hv
  obtain ⟨hpool, hregistry⟩ := changeCurrent_keeps stages change w
  obtain ⟨hpool', hregistry'⟩ := changeCurrent_keeps stages change' v
  exact ⟨trivial, hw.of_keeps hpool (congrArg _ hregistry), hv.of_keeps hpool' (congrArg _ hregistry')⟩

/-- The end of a unit of work, which is announced if its beginning was. -/
theorem agrees_leave {R : A → B → Prop} {a : A} {b : B} (h : R a b) (entered entered' : Bool)
    (change : SharedWorld S → Worker → Worker) :
    Agrees chain id R
      (if entered = true then do discard ((host stages).changeCurrent change); Pure.pure a
        else Pure.pure a)
      (if entered' = true then do discard ((host stages).changeCurrent change); Pure.pure b
        else Pure.pure b) := by
  intro w v hw hv
  obtain ⟨hpool, hregistry⟩ := changeCurrent_keeps stages change w
  obtain ⟨hpool', hregistry'⟩ := changeCurrent_keeps stages change v
  have hw' := hw.of_keeps hpool (congrArg _ hregistry)
  have hv' := hv.of_keeps hpool' (congrArg _ hregistry')
  cases entered with
  | false =>
    cases entered' with
    | false => exact ⟨h, hw, hv⟩
    | true => exact ⟨h, hw, hv'⟩
  | true =>
    cases entered' with
    | false => exact ⟨h, hw', hv⟩
    | true => exact ⟨h, hw', hv'⟩

theorem agrees_runUnit {R : A → B → Prop} {x : StateM (SharedWorld S) A} {y : StateM (SharedWorld S) B}
    (h : Agrees chain id R x y) :
    Agrees chain id R ((host stages).runUnit x) ((host stages).runUnit y) :=
  (agrees_changeCurrent _ _).bind fun entered entered' _ ↦
    h.bind fun _ _ hab ↦ agrees_leave hab entered entered' _

/-! ### Leases -/

/-- Two instances that are as new cannot be told apart. -/
theorem alike_of_rested {inst other : ChainInstance} (h : inst.Rested) (h' : other.Rested)
    (hregistry : inst.invocation.registry = some id)
    (hregistry' : other.invocation.registry = some id) : inst.Alike id other where
  cursor := h.1.1.trans h'.1.1.symm
  consecutiveReruns := h.1.2.trans h'.1.2.symm
  invocation := .of_blank h.2 h'.2 (hregistry.trans hregistry'.symm)
  registry := hregistry

/-- An instance that is returned is as a new one. -/
theorem rested_reset {inst other : ChainInstance} (h : inst.Alike id other) :
    inst.reset.Rested ∧ inst.reset.invocation.registry = some id := by
  obtain ⟨-, map, hstore, -⟩ := h.invocation
  exact ⟨⟨⟨rfl, rfl⟩, hstore.sound.blank_clear⟩, h.registry⟩

/-- An instance that is acquired is as new, whether or not it was used before. -/
theorem Ready.acquire {w : SharedWorld S} (h : w.Ready chain id) (stages : S → StageRule) (pool : PoolRef) :
    ((host stages).acquire pool w).1.inst.Rested ∧
      ((host stages).acquire pool w).1.inst.invocation.registry = some id ∧
      ((host stages).acquire pool w).2.Ready chain id := by
  have heq : (host stages).acquire pool w =
      (⟨pool, (ChainPool.acquire w.around.registry w.pool).1⟩,
        { w with pool := (ChainPool.acquire w.around.registry w.pool).2 }) := rfl
  rw [heq]
  rcases ChainPool.acquire_cases w.around.registry w.pool with ⟨inst, idle, hidle, hacquire⟩ | ⟨-, hacquire⟩
  · have hmem : ∀ other ∈ inst :: idle, other.Rested ∧ other.invocation.registry = some id :=
      hidle ▸ h.idle
    rw [hacquire]
    exact ⟨(hmem inst List.mem_cons_self).1, (hmem inst List.mem_cons_self).2, h.chain_eq,
      fun other hother ↦ hmem other (List.mem_cons_of_mem _ hother), h.registry⟩
  · rw [hacquire]
    exact ⟨⟨⟨rfl, rfl⟩, AttributeStore.blank_new _⟩, congrArg some h.registry, h.chain_eq, h.idle,
      h.registry⟩

/-- An instance that is released may be handed out again. -/
theorem Ready.release {w : SharedWorld S} (h : w.Ready chain id) {lease other : Lease}
    (hlease : lease.Alike id other) : ((host stages).release lease w).2.Ready chain id :=
  ⟨h.chain_eq, List.forall_mem_cons.2 ⟨rested_reset hlease, h.idle⟩, h.registry⟩

/-- The leases that are acquired cannot be told apart. -/
theorem agrees_acquire (pool pool' : PoolRef) :
    Agrees chain id (Lease.Alike id) ((host stages).acquire pool)
      ((host stages).acquire pool') := by
  intro w v hw hv
  obtain ⟨hrested, hregistry, hready⟩ := hw.acquire stages pool
  obtain ⟨hrested', hregistry', hready'⟩ := hv.acquire stages pool'
  exact ⟨alike_of_rested hrested hrested' hregistry hregistry', hready, hready'⟩

theorem agrees_release {lease other : Lease} (h : lease.Alike id other) :
    Agrees chain id (fun _ _ ↦ True) ((host stages).release lease) ((host stages).release other) :=
  fun _ _ hw hv ↦ ⟨trivial, hw.release h, hv.release h.symm⟩

/-- The holders of two leases are told the same of a pass. -/
structure Told (bindings : Set (Option Nat)) (id : Nat)
    (told other : Except Panic (Except StageFailure ChainOutcome) × AttributeStore) : Prop where
  reply : ∃ outcome lease lease', told.1 = Lease.told lease outcome ∧
    other.1 = Lease.told lease' outcome ∧ lease.Alike id lease'
  connection : told.2.Alike other.2
  binding : told.2.registry ∈ bindings

/-- **A pass on either of two leases that cannot be told apart** has the same end. -/
theorem agrees_execute (hstages : StageRule.StayWithin stages bindings id) {lease other : Lease}
    (h : lease.Alike id other) (event : Event) {attributes attributes' : AttributeStore}
    (hattributes : attributes.Alike attributes') (hbinding : attributes.registry ∈ bindings) :
    Agrees chain id (Told bindings id) ((host stages).execute lease event attributes)
      ((host stages).execute other event attributes') := by
  intro w v hw hv
  have hpass : Pass.Alike bindings id ⟨event, attributes, lease.inst⟩
      ⟨event, attributes', other.inst⟩ := ⟨rfl, hattributes, hbinding, h⟩
  obtain ⟨outcome, left, left', hrun, hrun', hleft⟩ := Chain.run_alike hstages chain hpass w v
  have hlease : Lease.Alike id ⟨lease.pool, left.inst⟩ ⟨other.pool, left'.inst⟩ := hleft.inst
  have hchain : (((host stages).pool lease.pool).read w).chain = chain := hw.chain_eq
  have hchain' : (((host stages).pool other.pool).read v).chain = chain := hv.chain_eq
  rw [← hchain] at hrun
  rw [← hchain'] at hrun'
  have htold := ChainHost.execute_told hrun
  have htold' := ChainHost.execute_told hrun'
  by_cases hsuspended : outcome = .ok .suspended
  · subst hsuspended
    rw [ChainHost.execute_of_suspended hrun] at htold ⊢
    rw [ChainHost.execute_of_suspended hrun'] at htold' ⊢
    exact ⟨⟨⟨_, _, _, htold, htold', hlease⟩, hleft.connection, hleft.binding⟩, hw, hv⟩
  · rw [ChainHost.execute_of_ended hsuspended hrun] at htold ⊢
    rw [ChainHost.execute_of_ended hsuspended hrun'] at htold' ⊢
    exact ⟨⟨⟨_, _, _, htold, htold', hlease⟩, hleft.connection, hleft.binding⟩, hw.release hlease,
      hv.release hlease.symm⟩

/-! ### Operations -/

/-- The callers of an operation on two connections get the same answer, and the connections are left in
the same state. -/
structure Answered (bindings : Set (Option Nat)) (id : Nat) {A : Type} (told other : A × Connection) :
    Prop where
  answer : told.1 = other.1
  connection : told.2.Alike bindings id other.2

variable {connection other : Connection}

/-- A pass of a connection has the same end on both, and both connections keep the same of it. -/
theorem agrees_runPass (hstages : StageRule.StayWithin stages bindings id)
    (h : connection.Alike bindings id other) (event : Event) {lease lease' : Lease}
    (hlease : lease.Alike id lease') :
    Agrees chain id (Answered bindings id) (connection.runPass (host stages) event lease)
      (other.runPass (host stages) event lease') := by
  refine (agrees_runUnit (agrees_execute hstages hlease event h.attributes h.binding)).bind ?_
  rintro ⟨reply, attributes⟩ ⟨reply', attributes'⟩
    ⟨⟨outcome, left, left', rfl, rfl, hleft⟩, hattributes, hbinding⟩
  rcases outcome with panic | ending
  · exact .pure ⟨rfl, h.id_eq, hattributes, hbinding, .none⟩
  · cases ending with
    | suspended => exact .pure ⟨rfl, h.id_eq, hattributes, hbinding, .some hleft⟩
    | _ => exact .pure ⟨rfl, h.id_eq, hattributes, hbinding, .none⟩

/-- An event is dealt with on the lease that is kept, or on one that is acquired. -/
theorem agrees_dispatch (hstages : StageRule.StayWithin stages bindings id)
    (h : connection.Alike bindings id other) (event : Event) :
    Agrees chain id (Answered bindings id) (connection.dispatch (host stages) event)
      (other.dispatch (host stages) event) := by
  have hsuspended := h.suspended
  unfold Connection.dispatch
  generalize connection.suspended = held at hsuspended
  generalize other.suspended = held' at hsuspended
  cases hsuspended with
  | some hlease => exact agrees_runPass hstages h event hlease
  | none => exact (agrees_acquire _ _).bind fun _ _ hlease ↦ agrees_runPass hstages h event hlease

theorem agrees_abandon (h : connection.Alike bindings id other) :
    Agrees chain id (Connection.Alike bindings id) (connection.abandon (host stages))
      (other.abandon (host stages)) := by
  have hsuspended := h.suspended
  unfold Connection.abandon
  generalize hheld : connection.suspended = held at hsuspended
  generalize hheld' : other.suspended = held' at hsuspended
  cases hsuspended with
  | some hlease =>
    exact (agrees_release hlease).bind fun _ _ _ ↦ .pure ⟨h.id_eq, h.attributes, h.binding, .none⟩
  | none => exact .pure h

/-- A connection that is closed gives up its pass, deals with the close, and has no attributes left. -/
theorem agrees_close (hstages : StageRule.StayWithin stages bindings id)
    (h : connection.Alike bindings id other) :
    Agrees chain id (Answered bindings id) (connection.close (host stages))
      (other.close (host stages)) := by
  refine (agrees_abandon h).bind fun left left' hleft ↦ (agrees_dispatch hstages hleft _).bind ?_
  rintro ⟨answer, left⟩ ⟨answer', left'⟩ ⟨hanswer, hconnection⟩
  obtain rfl : answer = answer' := hanswer
  cases answer with
  | error panic => exact .pure ⟨rfl, hconnection⟩
  | ok passed =>
    exact (agrees_abandon hconnection).bind fun last last' hlast ↦
      .pure ⟨rfl, hlast.id_eq, hlast.attributes.clear, hlast.binding, hlast.suspended⟩

/-- A connection that is not suspended refuses to resume, with its own number. -/
theorem agrees_resume (hstages : StageRule.StayWithin stages bindings id)
    (h : connection.Alike bindings id other) (event : Event) :
    Agrees chain id (Answered bindings id) (connection.resume (host stages) event)
      (other.resume (host stages) event) := by
  unfold Connection.resume
  rw [h.isSuspended_eq, h.id_eq]
  split
  · exact agrees_dispatch hstages h event
  · exact .pure ⟨rfl, h⟩

/-- **An operation goes alike on two connections that cannot be told apart.** -/
theorem agrees_perform (values : FactoryValues) (hstages : StageRule.StayWithin stages bindings id)
    (hid : some id ∈ bindings) (h : connection.Alike bindings id other) (op : DriverOp) :
    Agrees chain id (Answered bindings id) (op.perform values stages connection)
      (op.perform values stages other) := by
  cases op with
  | reopen number =>
    refine (agrees_abandon h).bind fun left left' hleft ↦ agrees_get.bind fun w v hready ↦ .pure ?_
    have hregistry : some w.around.registry.id = some id := congrArg some hready.1.registry
    refine ⟨rfl, rfl, .of_blank (AttributeStore.blank_new _) (AttributeStore.blank_new _) ?_, ?_, .none⟩
    · exact hregistry.trans (congrArg some hready.2.registry).symm
    · show some w.around.registry.id ∈ bindings
      rwa [hregistry]
  | handleMessage message =>
    exact (agrees_dispatch hstages h _).bind fun _ _ htold ↦
      .pure ⟨congrArg DriverAnswer.passed htold.answer, htold.connection⟩
  | resume event =>
    exact (agrees_resume hstages h event).bind fun _ _ htold ↦
      .pure ⟨congrArg DriverAnswer.passed htold.answer, htold.connection⟩
  | close =>
    exact (agrees_close hstages h).bind fun _ _ htold ↦
      .pure ⟨congrArg DriverAnswer.passed htold.answer, htold.connection⟩
  | access op =>
    obtain ⟨hanswer, hattributes⟩ := op.performWith_alike values h.attributes
    have hbinding : (op.performWith values connection.attributes).2.registry ∈ bindings :=
      (op.perform_registry _ connection.attributes ()).symm ▸ h.binding
    exact .pure ⟨congrArg DriverAnswer.accessed hanswer, h.id_eq, hattributes, hbinding, h.suspended⟩

end SharedWorld

/-! ### Systems -/

namespace DriverSystem

open SharedWorld

variable {D S : Type} {chain : Chain S} {out : D} {stages : S → StageRule}
  {system other : DriverSystem D S}

/-- Two systems whose connections cannot be told apart, but for one of them. -/
structure Alike (bindings : Set (Option Nat)) (chain : Chain S) (id : Nat) (out : D)
    (system other : DriverSystem D S) : Prop where
  left : system.shared.Ready chain id
  right : other.shared.Ready chain id
  others : ∀ driver, driver ≠ out →
    (system.drivers driver).Alike bindings id (other.drivers driver)
  out : (system.drivers out).Alike bindings id (system.drivers out)

/-- Whoever calls sees the same of operations that are answered the same. -/
theorem moment_eq_of_answered (values : FactoryValues) (driver : D) {told told' : DriverAnswer × Connection}
    (h : Answered bindings id told told') :
    DriverMoment.of values driver told = DriverMoment.of values driver told' := by
  have hattributes : (fun op : StoreOp ↦ (op.performWith values told.2.attributes).1) =
      fun op ↦ (op.performWith values told'.2.attributes).1 :=
    funext fun op ↦ (op.performWith_alike values h.connection.attributes).1
  rw [DriverMoment.of, DriverMoment.of, h.answer, h.connection.isSuspended_eq, hattributes]

theorem alike_fresh (chain : Chain S) (around : Surroundings) (pool : PoolRef) (ids : D → ConnectionId)
    (out : D) (hid : some around.registry.id ∈ bindings) :
    Alike bindings chain around.registry.id out (fresh chain around pool ids)
      (fresh chain around pool ids) := by
  have hready : SharedWorld.Ready ⟨{ chain }, around⟩ chain around.registry.id := ⟨rfl, nofun, rfl⟩
  have hconnection : ∀ driver, (Connection.new (ids driver) pool around.registry).Alike bindings
      around.registry.id (Connection.new (ids driver) pool around.registry) := fun driver ↦
    ⟨rfl, .of_blank (AttributeStore.blank_new _) (AttributeStore.blank_new _) rfl, hid, .none⟩
  exact ⟨hready, hready, fun driver _ ↦ hconnection driver, hconnection out⟩

variable [DecidableEq D]

/-- Any other connection does the same in both systems, and its caller sees the same. -/
theorem Alike.act (h : Alike bindings chain id out system other) (values : FactoryValues)
    (hstages : StageRule.StayWithin stages bindings id) (hid : some id ∈ bindings) {driver : D}
    (hne : driver ≠ out) (op : DriverOp) :
    (system.step values stages (.act driver op)).1 = (other.step values stages (.act driver op)).1 ∧
      Alike bindings chain id out (system.step values stages (.act driver op)).2
        (other.step values stages (.act driver op)).2 := by
  obtain ⟨htold, hleft, hright⟩ :=
    agrees_perform values hstages hid (h.others driver hne) op _ _ h.left h.right
  refine ⟨congrArg (fun moment ↦ [moment]) (moment_eq_of_answered values driver htold), hleft, hright, ?_, ?_⟩
  · intro third hthird
    by_cases hsame : third = driver
    · subst hsame
      rw [drivers_act_self, drivers_act_self]
      exact htold.connection
    · rw [drivers_act_ne values stages _ hsame, drivers_act_ne values stages _ hsame]
      exact h.others third hthird
  · rw [drivers_act_ne values stages _ hne.symm]
    exact h.out

/-- What the one connection does in one of the systems leaves them as alike as they were. -/
theorem Alike.act_out (h : Alike bindings chain id out system other) (values : FactoryValues)
    (hstages : StageRule.StayWithin stages bindings id) (hid : some id ∈ bindings) (op : DriverOp) :
    Alike bindings chain id out (system.step values stages (.act out op)).2 other := by
  obtain ⟨htold, hleft, -⟩ := agrees_perform values hstages hid h.out op _ _ h.left h.left
  refine ⟨hleft, h.right, fun driver hne ↦ ?_, ?_⟩
  · rw [drivers_act_ne values stages _ hne]
    exact h.others driver hne
  · rw [drivers_act_self]
    exact htold.connection

/-- What happens around concerns both systems alike. -/
theorem Alike.around (h : Alike bindings chain id out system other) (values : FactoryValues)
    (stages : S → StageRule) (change : Surroundings → Surroundings)
    (hchange : ∀ around, (change around).registry.id = around.registry.id) :
    Alike bindings chain id out (system.step values stages (.around change hchange)).2
      (other.step values stages (.around change hchange)).2 :=
  ⟨h.left.of_keeps rfl (hchange _), h.right.of_keeps rfl (hchange _), h.others, h.out⟩

/-- Whoever calls another connection sees the same, whether or not the one connection is called. -/
theorem Alike.run (h : Alike bindings chain id out system other) (values : FactoryValues)
    (hstages : StageRule.StayWithin stages bindings id) (hid : some id ∈ bindings) {driver : D}
    (hne : driver ≠ out) (steps : List (DriverStep D)) :
    seenBy driver (system.run values stages steps).1 =
      seenBy driver (other.run values stages (without out steps)).1 := by
  induction steps generalizing system other with
  | nil => rfl
  | cons step steps ih =>
    cases step with
    | around change hchange => exact ih (h.around values stages change hchange)
    | act actor op =>
      by_cases hactor : actor = out
      · subst hactor
        have hwithout : without actor (.act actor op :: steps) = without actor steps :=
          List.filter_cons_of_neg (by simp [DriverStep.isOf])
        have hunseen : seenBy driver (system.step values stages (.act actor op)).1 = [] :=
          List.filter_cons_of_neg (by simpa [DriverMoment.of] using hne.symm)
        rw [hwithout, run_cons, seenBy_append, hunseen, List.nil_append]
        exact ih (h.act_out values hstages hid op)
      · have hwithout : without out (.act actor op :: steps) = .act actor op :: without out steps :=
          List.filter_cons_of_pos (by simp [DriverStep.isOf, hactor])
        obtain ⟨hmoments, halike⟩ := h.act values hstages hid hactor op
        rw [hwithout, run_cons, run_cons, hmoments, seenBy_append, seenBy_append, ih halike]

/-- **Connections that share a pool do not disturb each other**, when their stages leave invocations to the
registry. However the operations of any connections follow each other, whatever passes are suspended, fail
or panic in between, the callers of one see what they would see if another one were never called. -/
theorem seenBy_run_without (values : FactoryValues) (stages : S → StageRule) (chain : Chain S)
    (around : Surroundings) (hstages : StageRule.KeepInvocations stages around.registry.id)
    (pool : PoolRef) (ids : D → ConnectionId) {a b : D} (hab : a ≠ b) (steps : List (DriverStep D)) :
    seenBy a ((fresh chain around pool ids).run values stages steps).1 =
      seenBy a ((fresh chain around pool ids).run values stages (without b steps)).1 := by
  obtain ⟨bindings, hid, hwithin⟩ := hstages
  exact (alike_fresh chain around pool ids b hid).run values hwithin hid hab steps

/-- A stage leaves a mark in its invocation, and stops where it finds one. -/
def marking (event : Event) : StageProgram :=
  .onInvocation (.set (⟨0, "mark", 1, .absent⟩ : Attribute .boolean) true) fun
    | .value none => .done (.ok (.ok .invoke)) event
    | _ => .done (.ok (.ok .stop)) event

/-- The stage that leaves a mark puts no other store in place. -/
theorem keepsStores_marking (event : Event) : (marking event).KeepsStores := by
  intro answer
  dsimp only
  split <;> trivial

/-- A connection gets the instance on which another one has left a mark, and does not find it. -/
theorem seenBy_run_without_marked :
    let system : DriverSystem Bool Unit :=
      fresh ⟨"marks", [⟨"mark", ()⟩], {}⟩ (.only (.new 1 8)) ⟨0⟩ fun _ ↦ ⟨0⟩
    let stages : Unit → StageRule := fun _ ↦ StageProgram.rule .plain fun event _ ↦ marking event
    let steps : List (DriverStep Bool) := [.act false .close, .act true .close]
    StageRule.KeepInvocations stages 1 ∧
      seenBy true (system.run .plain stages steps).1 =
        seenBy true (system.run .plain stages (without false steps)).1 ∧
      (system.run .plain stages steps).2.shared.pool.reused = 1 := by
  intro system stages steps
  have hstages : StageRule.KeepInvocations stages 1 :=
    StageProgram.keepInvocations_rule .plain (fun _ event _ ↦ keepsStores_marking event) 1
  exact ⟨hstages, seenBy_run_without _ _ _ _ hstages _ _ (by decide) steps, by cbv⟩

/-- A stage sets a note of the first registry, and looks for one of the second by the same name. It finds
what it has set when the store of its invocation belongs to neither of them, and stops. Otherwise it puts
such a store in the place of its invocation's, and goes on. -/
def replacing (event : Event) : StageProgram :=
  .onInvocation (.set (⟨0, "note", 1, .absent⟩ : Attribute .boolean) true) fun _ ↦
    .onInvocation (.isSet (⟨0, "note", 2, .absent⟩ : Attribute .boolean)) fun
      | .flag true => .done (.ok (.ok .stop)) event
      | _ => .replaceInvocation none (.done (.ok (.ok .invoke)) event)

/-- A connection that gets the instance in which another one has put a store of no registry is told
something else than without the other one: an instance that is returned is cleared, but its store goes on
belonging to no registry. -/
theorem not_forall_seenBy :
    ¬ ∀ (stages : Unit → StageRule) (chain : Chain Unit) (around : Surroundings)
        (steps : List (DriverStep Bool)),
      seenBy true ((fresh chain around ⟨0⟩ fun _ ↦ ⟨0⟩).run .plain stages steps).1 =
        seenBy true ((fresh chain around ⟨0⟩ fun _ ↦ ⟨0⟩).run .plain stages (without false steps)).1 := by
  intro h
  let system : DriverSystem Bool Unit :=
    fresh ⟨"notes", [⟨"note", ()⟩], {}⟩ (.only (.new 1 8)) ⟨0⟩ fun _ ↦ ⟨0⟩
  let stages : Unit → StageRule := fun _ ↦ StageProgram.rule .plain fun event _ ↦ replacing event
  let steps : List (DriverStep Bool) := [.act false .close, .act true .close]
  have hseen : seenBy true (system.run .plain stages steps).1 =
    seenBy true (system.run .plain stages (without false steps)).1 := h stages _ _ steps
  have hanswers := congrArg (List.map DriverMoment.answer) hseen
  have hwith : (seenBy true (system.run .plain stages steps).1).map DriverMoment.answer =
    [.passed (.ok (.ok .stop))] := by cbv
  have halone : (seenBy true (system.run .plain stages (without false steps)).1).map
    DriverMoment.answer = [.passed (.ok (.ok .invoke))] := by cbv
  rw [hwith, halone] at hanswers
  cases hanswers

end DriverSystem

end Conduit
