import Conduit.Chain.Pool

/-!
# Running chains

A pass runs the stages of a chain one after another, from the one at which its instance stands,
until a stage ends it. A stage may go on to the next one, ask to be run again, stop the pass, suspend
it, fail or panic. Failing, panicking and asking to be run again too often end the pass as a failure
of that stage. Whoever holds an instance holds a lease; a lease that does not come back suspended has
been returned to its pool.
-/

namespace Conduit

/-- What a stage gets to see, and may change: the event and the two attribute stores. -/
structure StageView where
  /-- The event. -/
  event : Event
  /-- The attributes of the connection. -/
  connection : AttributeStore
  /-- The attributes of the invocation. -/
  invocation : AttributeStore
  /-- The position of the stage. -/
  stageIndex : Nat
  /-- The name of the chain. -/
  chainName : String
  /-- The number of the instance. -/
  instanceId : Nat
  deriving Inhabited

/-- The inspection text of a view. -/
def StageView.inspect (view : StageView) : String :=
  Text.inspectRecord "StageContext"
    [("chain", Text.quote view.chainName), ("instance", toString view.instanceId),
      ("stage", toString view.stageIndex), ("event", view.event.kind.name)]

/-- How a stage answers: with a directive or a failure, unless it panics. -/
abbrev StageAnswer := Except Panic (Except Fault Directive)

/-- The pools and stages within the state `W`. -/
structure ChainHost (W S : Type) where
  /-- The pools. -/
  pool : PoolRef → Cell W (ChainPool S)
  /-- The registry to which the attributes of invocations and connections belong. -/
  registry : W → Registry
  /-- What a stage does with an event. -/
  process : S → StageView → StateM W (StageAnswer × StageView)

/-- A stage that ended its pass with a failure. -/
structure StageFailure where
  /-- The name of the chain. -/
  chain : String
  /-- The position of the stage. -/
  index : Nat
  /-- The label of the stage. -/
  label : String
  /-- What happened. -/
  fault : Fault
  deriving Repr, Inhabited

/-- The text of a stage failure. -/
def StageFailure.display (failure : StageFailure) : String :=
  "stage #" ++ toString failure.index ++ " `" ++ failure.label ++ "` of chain `" ++
    failure.chain ++ "` failed: " ++ failure.fault.display

namespace StageFailure

/-- The report of a stage that failed. -/
def failedFault (cause : Fault) : Fault :=
  Fault.withCause
    { code := Fault.Code.chainStageFailed
      message := "stage returned `" ++ cause.code ++ "`: " ++ cause.message } cause

/-- The report of a stage that panicked. -/
def panickedFault (panic : Panic) : Fault where
  code := Fault.Code.chainStagePanicked
  message := "stage panicked: " ++ panic.message

/-- The report of a stage that asked too often to be run again. -/
def rerunFault (limit : Nat) : Fault where
  code := Fault.Code.chainRerunLimit
  message := "stage requested more than " ++ toString limit ++ " consecutive reruns"

end StageFailure

/-- How a pass ends. -/
inductive PassEnd where
  /-- The last stage went on. -/
  | completed
  /-- The stage at this position stopped the pass. -/
  | stopped (stage : Nat)
  /-- A stage suspended the pass. -/
  | suspended
  /-- A stage failed. -/
  | failed (failure : StageFailure)
  deriving Inhabited

/-- What changes during a pass. -/
structure Pass where
  /-- The event. -/
  event : Event
  /-- The attributes of the connection. -/
  connection : AttributeStore
  /-- The instance. -/
  inst : ChainInstance
  deriving Inhabited

namespace Pass

/-- What the stage at the cursor gets to see. -/
def view (pass : Pass) (chainName : String) : StageView where
  event := pass.event
  connection := pass.connection
  invocation := pass.inst.invocation
  stageIndex := pass.inst.cursor
  chainName
  instanceId := pass.inst.id

/-- The pass after a stage changed what it saw. -/
def update (pass : Pass) (view : StageView) : Pass where
  event := view.event
  connection := view.connection
  inst := { pass.inst with invocation := view.invocation }

/-- The pass at the next stage. -/
def step (pass : Pass) : Pass :=
  { pass with inst := { pass.inst with cursor := pass.inst.cursor + 1, consecutiveReruns := 0 } }

/-- The pass at the same stage once more. -/
def again (pass : Pass) : Pass :=
  { pass with
    inst := { pass.inst with consecutiveReruns := pass.inst.consecutiveReruns + 1 } }

end Pass

/-- The number of values of a rerun counter, which has 32 bits. -/
def rerunCounterSize : Nat := UInt32.size

/-- What follows a stage's answer. -/
inductive AfterStage where
  /-- The next stage. -/
  | next
  /-- The same stage. -/
  | same
  /-- The end of the pass; a suspended pass stands at the next stage. -/
  | finish (outcome : Except Panic PassEnd)

namespace Chain

variable {W S : Type}

/-- What follows the answer of a stage that had asked to be run again `reruns` times in a row. -/
def judge (chain : Chain S) (index : Nat) (stage : Stage S) (reruns : Nat) :
    StageAnswer → AfterStage
  | .ok (.ok .invoke) => .next
  | .ok (.ok .rerun) =>
    if rerunCounterSize ≤ reruns + 1 then .finish (.error .counterOverflow)
    else if chain.settings.maxConsecutiveReruns < reruns + 1 then
      .finish (.ok (.failed ⟨chain.name, index, stage.label,
        StageFailure.rerunFault chain.settings.maxConsecutiveReruns⟩))
    else .same
  | .ok (.ok .stop) => .finish (.ok (.stopped index))
  | .ok (.ok .suspend) => .finish (.ok .suspended)
  | .ok (.error fault) =>
    .finish (.ok (.failed ⟨chain.name, index, stage.label, StageFailure.failedFault fault⟩))
  | .error panic =>
    .finish (.ok (.failed ⟨chain.name, index, stage.label, StageFailure.panickedFault panic⟩))

/-- A stage is run again only while its counter has not reached its last value. -/
theorem reruns_lt_of_judge_eq_same {chain : Chain S} {index : Nat} {stage : Stage S}
    {reruns : Nat} {answer : StageAnswer} (h : chain.judge index stage reruns answer = .same) :
    reruns + 1 < rerunCounterSize := by
  unfold judge at h
  split at h <;> try contradiction
  split at h
  · contradiction
  · omega

/-- Runs the stages from the cursor of the instance on. -/
def run (host : ChainHost W S) (chain : Chain S) (pass : Pass) :
    StateM W (Except Panic PassEnd × Pass) := do
  if h : pass.inst.cursor < chain.stages.length then
    let stage := chain.stages[pass.inst.cursor]
    let (answer, view) ← host.process stage.tag (pass.view chain.name)
    let updated := pass.update view
    match after : chain.judge pass.inst.cursor stage pass.inst.consecutiveReruns answer with
    | .next => run host chain updated.step
    | .same => run host chain updated.again
    | .finish (.ok .suspended) => return (.ok .suspended, updated.step)
    | .finish outcome => return (outcome, updated)
  else
    return (.ok .completed, pass)
termination_by (chain.stages.length - pass.inst.cursor,
  rerunCounterSize - pass.inst.consecutiveReruns)
decreasing_by
  · apply Prod.Lex.left
    simp only [Pass.step, Pass.update]
    omega
  · have := reruns_lt_of_judge_eq_same after
    apply Prod.Lex.right'
    · simp [Pass.again, Pass.update]
    · simp only [Pass.again, Pass.update]
      omega

end Chain

/-- An instance in use. -/
structure Lease where
  /-- The pool it belongs to. -/
  pool : PoolRef
  /-- The instance. -/
  inst : ChainInstance
  deriving Inhabited

/-- What a pass that did not fail comes to. -/
inductive ChainOutcome where
  /-- All stages went on. -/
  | completed
  /-- The stage at this position stopped the pass. -/
  | stopped (stage : Nat)
  /-- The pass is suspended, and the lease goes on with the next stage. -/
  | suspended (lease : Lease)
  deriving Inhabited

/-- The directive that an outcome amounts to. -/
def ChainOutcome.directive : ChainOutcome → Directive
  | completed => .invoke
  | stopped _ => .stop
  | suspended _ => .suspend

namespace ChainHost

variable {W S : Type}

/-- Takes an instance from a pool. -/
def acquire (host : ChainHost W S) (pool : PoolRef) : StateM W Lease := do
  let registry := host.registry (← get)
  return ⟨pool, ← (host.pool pool).run (ChainPool.acquire registry)⟩

/-- Returns an instance to its pool. -/
def release (host : ChainHost W S) (lease : Lease) : StateM W Unit :=
  (host.pool lease.pool).modify (·.release lease.inst)

/-- Runs one pass on a lease, with an event and the attributes of a connection. Unless the pass is
suspended, the instance is returned before the outcome is given. -/
def execute (host : ChainHost W S) (lease : Lease) (event : Event) (connection : AttributeStore) :
    StateM W (Except Panic (Except StageFailure ChainOutcome) × AttributeStore) := do
  let pool ← (host.pool lease.pool).get
  let (outcome, pass) ← pool.chain.run host ⟨event, connection, lease.inst⟩
  let lease := { lease with inst := pass.inst }
  match outcome with
  | .ok .suspended => return (.ok (.ok (.suspended lease)), pass.connection)
  | .ok .completed =>
    host.release lease
    return (.ok (.ok .completed), pass.connection)
  | .ok (.stopped stage) =>
    host.release lease
    return (.ok (.ok (.stopped stage)), pass.connection)
  | .ok (.failed failure) =>
    host.release lease
    return (.ok (.error failure), pass.connection)
  | .error panic =>
    host.release lease
    return (.error panic, pass.connection)

end ChainHost

/-- The inspection text of a lease on a chain. -/
def Lease.inspect (lease : Lease) (chainName : String) : String :=
  Text.inspectRecord "ChainLease"
    [("chain", Text.quote chainName), ("instance", toString lease.inst.id),
      ("cursor", toString lease.inst.cursor)]

end Conduit
