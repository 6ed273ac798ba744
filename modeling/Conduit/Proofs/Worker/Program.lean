import Conduit.Proofs.Connection.Turns
import Conduit.Proofs.Worker.Scopes
import Mathlib.Logic.Function.Basic

/-!
# Programs that run on a thread

What runs on a thread is a program: it runs units of work and asks for the worker of the thread, it
drives connections, and it does things that are no business of the worker, such as letting a clock go
on. The bodies of units and accesses and the stages of the chains are such programs themselves, so all
of this may happen inside of each other, at any depth. A body ends by an answer, which may be that it
panicked, and whoever ran it may go on after that.

`ThreadWorld` is where a program runs. The world keeps the scopes that the program is inside of, and a
history of what happened, with the workers as they were right after; the programs do not see either.
-/

namespace Conduit

/-! ### The world -/

/-- What is around, and is not the business of a thread's worker. -/
structure ThreadEnv (S U : Type) where
  /-- What the clocks show. -/
  now : ClockRef → Nat
  /-- The registry of the attributes of connections and invocations. -/
  registry : Registry
  /-- The pools. -/
  pools : PoolRef → ChainPool S
  /-- The connections, but for those that are being driven. -/
  connections : Nat → Option Connection
  /-- Whatever else there is. -/
  user : U

/-- What a body or a stage comes to: its answer, and what a stage does to what it sees. -/
abbrev StageReply := StageAnswer × (StageView → StageView)

/-- What happens on a thread. -/
inductive ThreadEvent where
  /-- Something happened that is not the business of the worker. -/
  | around
  /-- The worker was changed by the one who had it at hand. -/
  | altered (op : WorkerOp)
  /-- The worker was not changed, since nobody had it at hand. -/
  | denied
  /-- The body of a unit of work begins. -/
  | unitBegan
  /-- A unit of work has ended, and its body had come to this. -/
  | unitEnded (answer : StageAnswer)
  /-- A body begins that has the worker at hand. -/
  | accessBegan
  /-- An access has ended; it comes to nothing when the worker was not to be had. -/
  | accessed (answer : Option StageAnswer)
  /-- A connection is about to deal with an event. -/
  | dispatching
  /-- A stage is called. -/
  | called
  /-- A connection has dealt with an event. -/
  | dispatched (answer : Connection.Answer)
  /-- A connection had nothing to deal with, or was not there. -/
  | turnedDown

/-- What happened, and how things are right after. -/
structure ThreadMoment where
  /-- What happened. -/
  event : ThreadEvent
  /-- The workers. -/
  workers : WorkerRef → Worker
  /-- The scopes that the program is inside of, the innermost first. -/
  scopes : List Scope

/-- The state in which programs run. -/
structure ThreadWorld (S U : Type) where
  /-- The place for a worker on the thread. -/
  slot : WorkerSlot
  /-- The workers. -/
  workers : WorkerRef → Worker
  /-- What is around. -/
  env : ThreadEnv S U
  /-- The scopes that the program is inside of, the innermost first. -/
  scopes : List Scope := []
  /-- What has happened, the last first. -/
  history : List ThreadMoment := []

/-- Whether an operation makes a connection run an event through its chain. -/
def ConnectionOp.passes (connection : Connection) : ConnectionOp → Bool
  | .message _ | .close => true
  | .resume _ => connection.isSuspended

namespace ThreadWorld

variable {S U A : Type}

/-- Adds to the history that something has happened. -/
def note (w : ThreadWorld S U) (event : ThreadEvent) : ThreadWorld S U :=
  { w with history := ⟨event, w.workers, w.scopes⟩ :: w.history }

/-- The world inside of a further scope. -/
def push (w : ThreadWorld S U) (scope : Scope) : ThreadWorld S U :=
  { w with scopes := scope :: w.scopes }

/-- The world outside of the innermost scope. -/
def pop (w : ThreadWorld S U) : ThreadWorld S U :=
  { w with scopes := w.scopes.tail }

/-- What the clock of the thread's worker shows. -/
def reading (w : ThreadWorld S U) : Nat :=
  (w.slot.installed.map fun ref ↦ w.env.now (w.workers ref).clock).getD 0

/-- The world with another connection of a name, or none. -/
def setConnection (w : ThreadWorld S U) (name : Nat) (connection : Option Connection) :
    ThreadWorld S U :=
  { w with env := { w.env with connections := Function.update w.env.connections name connection } }

/-- The thread, with stages that act on the world in the given way. -/
def host (act : S → StageView → StateM (ThreadWorld S U) StageReply) :
    ConnectionHost (ThreadWorld S U) S where
  pool ref :=
    { read := fun w ↦ w.env.pools ref
      write := fun pool w ↦ { w with env := { w.env with pools := Function.update w.env.pools ref pool } } }
  registry w := w.env.registry
  process tag view := fun w ↦
    let ((answer, edit), w) := act tag view (w.note .called)
    ((answer, edit view), w)
  slot :=
    { read := fun w ↦ w.slot
      write := fun slot w ↦ { w with slot } }
  worker ref :=
    { read := fun w ↦ w.workers ref
      write := fun worker w ↦ { w with workers := Function.update w.workers ref worker } }
  now clock w := w.env.now clock

/-- The thread, whose stages are not called. -/
def quiet : ConnectionHost (ThreadWorld S U) S :=
  host fun _ _ ↦ pure (.error .other, id)

/-- Changes what is around. -/
def around (change : ThreadEnv S U → ThreadEnv S U) (w : ThreadWorld S U) : ThreadWorld S U :=
  { w with env := change w.env }.note .around

/-- Changes the worker, if it is at hand. -/
def alter (op : WorkerOp) : StateM (ThreadWorld S U) Bool := fun w ↦
  match w.slot with
  | ⟨some ref, true⟩ =>
    (true, { w with workers := Function.update w.workers ref (op.perform (w.workers ref)) }.note
      (.altered op))
  | _ => (false, w.note .denied)

/-- Runs a unit of work. -/
def unit (body : StateM (ThreadWorld S U) StageReply) : StateM (ThreadWorld S U) StageAnswer := fun w ↦
  let ((answer, _), w) := (quiet (S := S)).runUnit (fun w ↦ body (w.note .unitBegan))
    (w.push (.unit w.reading))
  (answer, w.pop.note (.unitEnded answer))

/-- Runs a body with the worker at hand, if that is to be had. -/
def access (body : WorkerRef → StateM (ThreadWorld S U) StageReply) :
    StateM (ThreadWorld S U) (Option StageAnswer) := fun w ↦
  let (answer, w) := (quiet (S := S)).withCurrent (fun ref w ↦
    let ((answer, _), w) := body ref ((w.push .access).note .accessBegan)
    (answer, w.pop)) w
  (answer, w.note (.accessed answer))

/-- Lets a connection carry out an operation, if it is not being driven already. -/
def dispatch (act : S → StageView → StateM (ThreadWorld S U) StageReply) (name : Nat)
    (op : ConnectionOp) : StateM (ThreadWorld S U) (Option Connection.Answer) := fun w ↦
  match w.env.connections name with
  | none => (none, w.note .turnedDown)
  | some connection =>
    if op.passes connection then
      let ((answer, connection), w) := op.perform (host act) connection
        (((w.note .dispatching).setConnection name none).push (.unit w.reading))
      (some answer, (w.pop.setConnection name (some connection)).note (.dispatched answer))
    else
      let ((answer, connection), w) := op.perform (host act) connection (w.setConnection name none)
      (some answer, (w.setConnection name (some connection)).note .turnedDown)

end ThreadWorld

/-! ### Programs -/

/-- What runs on a thread. -/
inductive ThreadProgram (S U : Type) where
  /-- End; a stage answers, and leaves something of what it saw. -/
  | done (answer : StageAnswer) (edit : StageView → StageView)
  /-- Look at everything, and change what is not the business of the worker. -/
  | around (change : ThreadEnv S U → ThreadEnv S U)
      (next : (WorkerRef → Worker) → ThreadEnv S U → ThreadProgram S U)
  /-- Change the worker, which has to be at hand. -/
  | alter (op : WorkerOp) (next : Bool → ThreadProgram S U)
  /-- Run a unit of work. -/
  | unit (body : ThreadProgram S U) (next : StageAnswer → ThreadProgram S U)
  /-- Run a body with the worker at hand. -/
  | access (body : WorkerRef → ThreadProgram S U) (next : Option StageAnswer → ThreadProgram S U)
  /-- Let a connection carry out an operation; what the stages do then is a program for each call. -/
  | dispatch (name : Nat) (op : ConnectionOp) (stages : S → StageView → ThreadProgram S U)
      (next : Option Connection.Answer → ThreadProgram S U)

/-- Runs a program. -/
def ThreadProgram.run {S U : Type} : ThreadProgram S U → StateM (ThreadWorld S U) StageReply
  | .done answer edit => pure (answer, edit)
  | .around change next => fun w ↦ (next w.workers w.env).run (w.around change)
  | .alter op next => fun w ↦
    let (altered, w) := ThreadWorld.alter op w
    (next altered).run w
  | .unit body next => fun w ↦
    let (answer, w) := ThreadWorld.unit body.run w
    (next answer).run w
  | .access body next => fun w ↦
    let (answer, w) := ThreadWorld.access (fun ref ↦ (body ref).run) w
    (next answer).run w
  | .dispatch name op stages next => fun w ↦
    let (answer, w) := ThreadWorld.dispatch (fun tag view ↦ (stages tag view).run) name op w
    (next answer).run w

end Conduit
