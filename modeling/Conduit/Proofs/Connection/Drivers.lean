import Conduit.Connection.Basic
import Conduit.Proofs.Attribute.Alike
import Mathlib.Logic.Function.Basic

/-!
# Connections that share a pool

Connections are driven one operation at a time, in any order, and share a pool and whatever is around:
the registry, the clocks, and the workers of the threads on which they run. What they do to each other
they do through the pool alone, since a stage goes by nothing but the event, the attributes and its
position (`StageRule`). It may not look at the number of its instance, nor at how many slots a store
provides for, nor through a value at state that others change, such as that of a session.

A stage may also put another store in the place of one that it is shown. An instance is returned with the
store that it has then, which is cleared, but goes on belonging to the registry that it belongs to. Stages
among which that does not happen to an invocation are those that `StageRule.KeepInvocations`.

`DriverSystem.run` carries out such operations, and tells of each what its caller gets to see.
-/

namespace Conduit

/-! ### Stages -/

/-- What two stages get to see cannot be told apart. -/
structure StageView.Alike (view other : StageView) : Prop where
  event : view.event = other.event
  connection : view.connection.Alike other.connection
  invocation : view.invocation.Alike other.invocation

/-- What a stage does that goes by the event, the attributes and its position. -/
structure StageRule where
  /-- The answer, and what is left of the view. -/
  apply : StageView → StageAnswer × StageView
  /-- Nothing else matters. -/
  respects : ∀ view other, view.Alike other → view.stageIndex = other.stageIndex →
    view.chainName = other.chainName →
      (apply view).1 = (apply other).1 ∧ (apply view).2.Alike (apply other).2

/-- The attributes of the invocation belong to the registry of this number, and those of the connection
to one of the given registries, or to none if that is given. -/
structure StageView.Within (bindings : Set (Option Nat)) (id : Nat) (view : StageView) : Prop where
  connection : view.connection.registry ∈ bindings
  invocation : view.invocation.registry = some id

/-- However the stages follow each other on a connection and an invocation whose attributes belong to the
registry of this number, those of the invocation go on belonging to it. The `bindings` are what the
connection may come to belong to on the way. -/
def StageRule.KeepInvocations {S : Type} (stages : S → StageRule) (id : Nat) : Prop :=
  ∃ bindings : Set (Option Nat), some id ∈ bindings ∧
    ∀ tag view, view.Within bindings id → ((stages tag).apply view).2.Within bindings id

/-- What a stage does by the operations of its two stores. -/
inductive StageProgram where
  /-- Answer, and leave an event. -/
  | done (answer : StageAnswer) (event : Event)
  /-- Carry out an operation on the attributes of the connection. -/
  | onConnection (op : StoreOp) (next : StoreAnswer → StageProgram)
  /-- Carry out an operation on the attributes of the invocation. -/
  | onInvocation (op : StoreOp) (next : StoreAnswer → StageProgram)
  /-- Exchange the two stores. -/
  | exchange (next : StageProgram)
  /-- Put an empty store, of a registry or of none, in the place of the invocation's. -/
  | replaceInvocation (registry : Option Registry) (next : StageProgram)

/-- An empty store, which belongs to a registry or to none. -/
def AttributeStore.emptyOf (registry : Option Registry) : AttributeStore :=
  registry.elim detached new

theorem AttributeStore.blank_emptyOf (registry : Option Registry) : (emptyOf registry).Blank := by
  cases registry with
  | none => exact blank_detached
  | some registry => exact blank_new registry

namespace StageProgram

/-- Runs a program on what a stage sees. -/
def run (values : FactoryValues) : StageProgram → StageView → StageAnswer × StageView
  | done answer event, view => (answer, { view with event })
  | onConnection op next, view =>
    let told := op.performWith values view.connection
    (next told.1).run values { view with connection := told.2 }
  | onInvocation op next, view =>
    let told := op.performWith values view.invocation
    (next told.1).run values { view with invocation := told.2 }
  | exchange next, view =>
    next.run values { view with connection := view.invocation, invocation := view.connection }
  | replaceInvocation registry next, view =>
    next.run values { view with invocation := .emptyOf registry }

/-- **A program cannot tell two views apart** that are alike. -/
theorem run_alike (values : FactoryValues) (program : StageProgram) {view other : StageView}
    (h : view.Alike other) :
    (program.run values view).1 = (program.run values other).1 ∧
      (program.run values view).2.Alike (program.run values other).2 := by
  induction program generalizing view other with
  | done answer event => exact ⟨rfl, rfl, h.connection, h.invocation⟩
  | onConnection op next ih =>
    obtain ⟨hanswer, halike⟩ := op.performWith_alike values h.connection
    simp only [run, hanswer]
    exact ih _ ⟨h.event, halike, h.invocation⟩
  | onInvocation op next ih =>
    obtain ⟨hanswer, halike⟩ := op.performWith_alike values h.invocation
    simp only [run, hanswer]
    exact ih _ ⟨h.event, h.connection, halike⟩
  | exchange next ih => exact ih ⟨h.event, h.invocation, h.connection⟩
  | replaceInvocation registry next ih =>
    have hblank := AttributeStore.blank_emptyOf registry
    exact ih ⟨h.event, h.connection, .of_blank hblank hblank rfl⟩

/-- A program that is chosen by the event and the position is a rule. -/
def rule (values : FactoryValues) (program : Event → Nat → StageProgram) : StageRule where
  apply view := (program view.event view.stageIndex).run values view
  respects view other h hindex hname := by
    rw [h.event, hindex]
    exact run_alike values _ h

/-- The program works on the two stores that it is shown, and puts no other in their place. -/
def KeepsStores : StageProgram → Prop
  | done _ _ => True
  | onConnection _ next => ∀ answer, (next answer).KeepsStores
  | onInvocation _ next => ∀ answer, (next answer).KeepsStores
  | exchange next => next.KeepsStores
  | replaceInvocation _ _ => False

/-- A program that keeps the stores leaves them to their registry. -/
theorem KeepsStores.within_run {program : StageProgram} (h : program.KeepsStores)
    (values : FactoryValues) {id : Nat} {view : StageView} (hview : view.Within {some id} id) :
    (program.run values view).2.Within {some id} id := by
  induction program generalizing view with
  | done answer event => exact ⟨hview.connection, hview.invocation⟩
  | onConnection op next ih =>
    refine ih _ (h _) ⟨?_, hview.invocation⟩
    exact (op.perform_registry _ view.connection ()).trans hview.connection
  | onInvocation op next ih =>
    refine ih _ (h _) ⟨hview.connection, ?_⟩
    exact (op.perform_registry _ view.invocation ()).trans hview.invocation
  | exchange next ih => exact ih h ⟨hview.invocation, hview.connection⟩
  | replaceInvocation registry next ih => exact h.elim

/-- Stages that put no other stores in the place of theirs leave invocations to any registry. -/
theorem keepInvocations_rule {S : Type} (values : FactoryValues) {program : S → Event → Nat → StageProgram}
    (h : ∀ tag event index, (program tag event index).KeepsStores) (id : Nat) :
    StageRule.KeepInvocations (fun tag ↦ rule values (program tag)) id :=
  ⟨{some id}, rfl, fun tag view hview ↦ (h tag view.event view.stageIndex).within_run values hview⟩

end StageProgram

/-! ### The world -/

/-- What is around, and is not the business of connections. -/
structure Surroundings where
  /-- The registry of attributes. -/
  registry : Registry
  /-- The place for a worker on the running thread. -/
  slot : WorkerSlot
  /-- The workers. -/
  workers : WorkerRef → Worker
  /-- What the clocks show. -/
  now : ClockRef → Nat

/-- The registry alone, without workers. -/
def Surroundings.only (registry : Registry) : Surroundings where
  registry
  slot := {}
  workers _ := default
  now _ := 0

/-- What connections share. -/
structure SharedWorld (S : Type) where
  /-- The pool. -/
  pool : ChainPool S
  /-- Everything else. -/
  around : Surroundings

/-- The pool and its stages, which follow rules. -/
def SharedWorld.host {S : Type} (stages : S → StageRule) : ConnectionHost (SharedWorld S) S where
  pool _ :=
    { read := SharedWorld.pool
      write := fun pool w ↦ { w with pool } }
  registry w := w.around.registry
  process tag view := fun w ↦ ((stages tag).apply view, w)
  slot :=
    { read := fun w ↦ w.around.slot
      write := fun slot w ↦ { w with around := { w.around with slot } } }
  worker ref :=
    { read := fun w ↦ w.around.workers ref
      write := fun worker w ↦
        { w with around := { w.around with workers := Function.update w.around.workers ref worker } } }
  now clock w := w.around.now clock

/-! ### Drivers -/

/-- An operation on a connection. -/
inductive DriverOp where
  /-- Drop the connection, and open another one in its place. -/
  | reopen (id : ConnectionId)
  | handleMessage (message : Buffer)
  | resume (event : Event)
  | close
  /-- An operation on its attributes. -/
  | access (op : StoreOp)

/-- What an operation on a connection answers. -/
inductive DriverAnswer where
  | reopened
  | passed (answer : Connection.Answer)
  | accessed (answer : StoreAnswer)

/-- Carries out an operation on a connection. -/
def DriverOp.perform {S : Type} (values : FactoryValues) (stages : S → StageRule)
    (connection : Connection) : DriverOp → StateM (SharedWorld S) (DriverAnswer × Connection)
  | reopen id => do
    let dropped ← connection.abandon (SharedWorld.host stages)
    return (.reopened, .new id dropped.pool (← get).around.registry)
  | handleMessage message => do
    let (answer, connection) ← connection.handleMessage (SharedWorld.host stages) message
    return (.passed answer, connection)
  | resume event => do
    let (answer, connection) ← connection.resume (SharedWorld.host stages) event
    return (.passed answer, connection)
  | close => do
    let (answer, connection) ← connection.close (SharedWorld.host stages)
    return (.passed answer, connection)
  | access op => do
    let (answer, attributes) := op.performWith values connection.attributes
    return (.accessed answer, { connection with attributes })

/-- What the caller of an operation gets to see. -/
structure DriverMoment (D : Type) where
  /-- Whose operation it was. -/
  driver : D
  /-- Its answer. -/
  answer : DriverAnswer
  /-- Whether a pass is suspended now. -/
  suspended : Bool
  /-- What operations on the attributes would answer now. -/
  attributes : StoreOp → StoreAnswer

/-- What the caller sees who is told something and finds the connection as it is left. -/
def DriverMoment.of {D : Type} (values : FactoryValues) (driver : D)
    (told : DriverAnswer × Connection) : DriverMoment D where
  driver
  answer := told.1
  suspended := told.2.isSuspended
  attributes op := (op.performWith values told.2.attributes).1

/-- Something that happens. -/
inductive DriverStep (D : Type) where
  /-- A connection is called. -/
  | act (driver : D) (op : DriverOp)
  /-- Something else happens: workers come and go, clocks go on, attributes are declared. -/
  | around (change : Surroundings → Surroundings)
      (h : ∀ around, (change around).registry.id = around.registry.id)

/-- Whether a step is an operation of the given connection. -/
def DriverStep.isOf {D : Type} [DecidableEq D] (driver : D) : DriverStep D → Bool
  | act other _ => other = driver
  | around _ _ => false

/-- Connections that share a pool. -/
structure DriverSystem (D S : Type) where
  /-- The connections. -/
  drivers : D → Connection
  /-- What they share. -/
  shared : SharedWorld S

namespace DriverSystem

variable {D S : Type} [DecidableEq D]

/-- New connections, which share a new pool. -/
def fresh (chain : Chain S) (around : Surroundings) (pool : PoolRef) (ids : D → ConnectionId) :
    DriverSystem D S where
  drivers driver := .new (ids driver) pool around.registry
  shared := { pool := { chain }, around }

/-- Takes a step. -/
def step (values : FactoryValues) (stages : S → StageRule) (system : DriverSystem D S) :
    DriverStep D → List (DriverMoment D) × DriverSystem D S
  | .act driver op =>
    let (told, shared) := op.perform values stages (system.drivers driver) system.shared
    ([.of values driver told],
      { drivers := Function.update system.drivers driver told.2, shared })
  | .around change _ =>
    ([], { system with shared := { system.shared with around := change system.shared.around } })

theorem drivers_act_self (values : FactoryValues) (stages : S → StageRule)
    (system : DriverSystem D S) (driver : D) (op : DriverOp) :
    (system.step values stages (.act driver op)).2.drivers driver =
      (op.perform values stages (system.drivers driver) system.shared).1.2 :=
  Function.update_self ..

theorem drivers_act_ne (values : FactoryValues) (stages : S → StageRule) (system : DriverSystem D S)
    {driver other : D} (h : other ≠ driver) (op : DriverOp) :
    (system.step values stages (.act driver op)).2.drivers other = system.drivers other :=
  Function.update_of_ne h ..

/-- Takes steps one after another. -/
def run (values : FactoryValues) (stages : S → StageRule) :
    DriverSystem D S → List (DriverStep D) → List (DriverMoment D) × DriverSystem D S
  | system, [] => ([], system)
  | system, step :: steps =>
    let (moments, system) := system.step values stages step
    let (rest, system) := system.run values stages steps
    (moments ++ rest, system)

theorem run_cons (values : FactoryValues) (stages : S → StageRule) (system : DriverSystem D S)
    (step : DriverStep D) (steps : List (DriverStep D)) :
    (system.run values stages (step :: steps)).1 = (system.step values stages step).1 ++
      ((system.step values stages step).2.run values stages steps).1 :=
  rfl

/-- What the caller of a connection gets to see. -/
def seenBy (driver : D) (moments : List (DriverMoment D)) : List (DriverMoment D) :=
  moments.filter fun moment ↦ moment.driver = driver

theorem seenBy_append (driver : D) (moments rest : List (DriverMoment D)) :
    seenBy driver (moments ++ rest) = seenBy driver moments ++ seenBy driver rest :=
  List.filter_append ..

/-- The steps without the operations of a connection. -/
def without (out : D) (steps : List (DriverStep D)) : List (DriverStep D) :=
  steps.filter fun step ↦ !step.isOf out

end DriverSystem

end Conduit
