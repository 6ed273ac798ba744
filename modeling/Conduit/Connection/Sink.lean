import Conduit.Connection.Basic
import Conduit.Reader.Basic

/-!
# Readers that feed a connection

The sink that runs every complete message through the chain of a connection, and collects the
failures of both the reader and the chain until somebody takes them.
-/

namespace Conduit

/-- The collected failures, oldest first. -/
structure ConnectionSink where
  failures : List Fault := []
  deriving Inhabited

namespace ConnectionSink

variable {W S : Type}

/-- The sink of a connection that lives in a cell. A pass that unwinds leaves no failure behind. -/
def sink (host : ConnectionHost W S) (connection : Cell W Connection) :
    Sink W ConnectionSink where
  completed state message := do
    let (answer, changed) ← (← connection.get).handleMessage host message
    connection.set changed
    match answer with
    | .ok (.error fault) => return ⟨state.failures ++ [fault]⟩
    | _ => return state
  failed state fault := return ⟨state.failures ++ [fault]⟩

/-- Hands over the collected failures. -/
def takeFailures (state : ConnectionSink) : List Fault × ConnectionSink :=
  (state.failures, {})

/-- The inspection text of a sink. -/
def inspect (state : ConnectionSink) : String :=
  Text.inspectRecord "DriverCompletion" [("failures", toString state.failures.length)]

end ConnectionSink

end Conduit
