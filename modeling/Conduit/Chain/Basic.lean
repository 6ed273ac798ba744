import Conduit.Attribute.Store
import Conduit.Buffer.Basic
import Conduit.Fault
import Conduit.Panic
import Conduit.Settings.Basic

/-!
# Chains

A chain is a non-empty sequence of labelled stages. It says nothing of what its stages do: a stage
is a tag in `S`, and what tags stand for is given where a chain is run.
-/

namespace Conduit

/-- How a stage wants its chain to go on. -/
inductive Directive where
  /-- End the pass. -/
  | stop
  /-- Go on with the next stage. -/
  | invoke
  /-- Run the same stage again. -/
  | rerun
  /-- Wait for another event, and go on with the next stage then. -/
  | suspend
  deriving DecidableEq, Repr, Inhabited

/-- All directives. -/
def Directive.all : List Directive :=
  [stop, invoke, rerun, suspend]

/-- The name of a directive. -/
def Directive.name : Directive → String
  | stop => "Stop"
  | invoke => "Invoke"
  | rerun => "Rerun"
  | suspend => "Suspend"

/-- The kinds of events on a connection. -/
inductive EventKind where
  | accept | connect | read | write | close
  deriving DecidableEq, Repr, Inhabited

/-- All kinds of events. -/
def EventKind.all : List EventKind :=
  [accept, connect, read, write, close]

/-- The name of a kind of event. -/
def EventKind.name : EventKind → String
  | accept => "Accept"
  | connect => "Connect"
  | read => "Read"
  | write => "Write"
  | close => "Close"

/-- An event that a chain works on. -/
structure Event where
  /-- Its kind. -/
  kind : EventKind
  /-- The message it carries, until a stage takes it. -/
  payload : Option Buffer := none
  deriving Inhabited, BEq

/-- The event of a complete message. -/
def Event.read (message : Buffer) : Event :=
  ⟨.read, some message⟩

/-- A stage under its label. -/
structure Stage (S : Type) where
  /-- The label. -/
  label : String
  /-- The tag that stands for what the stage does. -/
  tag : S
  deriving Repr

/-- The inspection text of a stage that was made of a function. -/
def Stage.inspect {S : Type} (stage : Stage S) : String :=
  Text.inspectRecord "FnStage" [("label", Text.quote stage.label)]

/-- A sequence of stages. -/
structure Chain (S : Type) where
  /-- The name. -/
  name : String
  /-- The stages in the order in which they are run. -/
  stages : List (Stage S)
  /-- The settings. -/
  settings : ChainSettings
  deriving Inhabited

namespace Chain

variable {S : Type}

/-- The failure to make a chain without stages. -/
def emptyFault (name : String) : Fault where
  code := Fault.Code.chainEmpty
  message := "chain `" ++ name ++ "` has no stages"

/-- The chain of the given stages; there has to be one. -/
def build (name : String) (stages : List (Stage S)) (settings : ChainSettings) :
    Except Fault (Chain S) :=
  if stages.isEmpty then .error (emptyFault name) else .ok ⟨name, stages, settings⟩

/-- The number of stages. -/
def length (chain : Chain S) : Nat :=
  chain.stages.length

/-- The labels of the stages. -/
def labels (chain : Chain S) : List String :=
  chain.stages.map Stage.label

/-- The inspection text of a chain that is being put together. -/
def inspectBuilder (name : String) (stageCount : Nat) : String :=
  Text.inspectRecord "ChainBuilder"
    [("name", Text.quote name), ("stages", toString stageCount)]

/-- The inspection text of a chain. -/
def inspect (chain : Chain S) : String :=
  Text.inspectRecord "ChainDefinition"
    [("name", Text.quote chain.name), ("stages", Text.inspectList (chain.labels.map Text.quote))]

end Chain

end Conduit
