import Conduit.Attribute.Error
import Conduit.Settings.Error
import Conduit.Transport.Error

/-!
# Faults

A fault is what an operation of the library reports when it fails: a stable code, a message for the
reader, and the chain of causes below it, the nearest first. The part of a code before its first dot
is its domain, which decides the category: how a caller usually reacts.
-/

namespace Conduit

/-- One cause below a fault. -/
inductive Cause where
  /-- Another fault, with its code and message; its own causes follow it in the chain. -/
  | fault (code message : String)
  /-- A failure of the transport. -/
  | transport (error : TransportError)
  /-- A refused declaration. -/
  | declaration (error : AttributeError)
  /-- Refused settings. -/
  | settings (error : SettingsError)
  deriving DecidableEq, Repr

/-- The text of a fault: its code in brackets and its message. -/
def displayFault (code message : String) : String :=
  "[" ++ code ++ "] " ++ message

namespace Cause

/-- The text of a cause. -/
def display : Cause → String
  | fault code message => displayFault code message
  | transport error => error.message
  | declaration error => error.message
  | settings error => error.message

end Cause

/-- A failure as it is reported to callers. -/
structure Fault where
  /-- The stable code. -/
  code : String
  /-- What happened, for a human reader. -/
  message : String
  /-- The causes, nearest first. -/
  causes : List Cause := []
  deriving DecidableEq, Repr, Inhabited

namespace Fault

/-- The text of a fault. -/
def display (fault : Fault) : String :=
  displayFault fault.code fault.message

/-- The fault as a cause of another one, followed by its own causes. -/
def asCauses (fault : Fault) : List Cause :=
  .fault fault.code fault.message :: fault.causes

/-- The fault with another fault as its cause. -/
def withCause (fault cause : Fault) : Fault :=
  { fault with causes := cause.asCauses }

/-- How a caller usually reacts to a fault. -/
inductive Category where
  /-- A pass through a chain ended early; the connection is usually torn down. -/
  | stageFailure
  /-- An operation was called in a state that does not allow it, or the peer broke the protocol. -/
  | protocol
  /-- The program is set up wrongly. -/
  | configuration
  /-- The transport reported a failure. -/
  | transport
  /-- Anything else. -/
  | internal
  deriving DecidableEq, Repr

namespace Category

/-- The name of a category. -/
def name : Category → String
  | stageFailure => "StageFailure"
  | protocol => "Protocol"
  | configuration => "Configuration"
  | transport => "Transport"
  | internal => "Internal"

end Category

/-! ### Codes -/

namespace Code

def chainEmpty := "chain.empty"
def chainStageFailed := "chain.stage_failed"
def chainStagePanicked := "chain.stage_panicked"
def chainRerunLimit := "chain.rerun_limit"
def chainNotSuspended := "chain.not_suspended"
def attributeTypeMismatch := "attribute.type_mismatch"
def attributeSlotsExhausted := "attribute.slots_exhausted"
def sessionNotConnected := "session.not_connected"
def sessionClosed := "session.closed"
def sessionMissing := "session.missing"
def protocolSend := "protocol.send"
def readerPredicateFailed := "reader.predicate_failed"
def readerSourceFailed := "reader.source_failed"
def configParse := "config.parse"
def configInvalid := "config.invalid"
def workerShutdown := "worker.shutdown"
def workerSpawn := "worker.spawn"
def transportClosed := "transport.closed"
def transportIo := "transport.io"
def transportRejected := "transport.rejected"

/-- The codes of this library. -/
def all : List String :=
  [chainEmpty, chainStageFailed, chainStagePanicked, chainRerunLimit, chainNotSuspended,
    attributeTypeMismatch, attributeSlotsExhausted, sessionNotConnected, sessionClosed,
    sessionMissing, protocolSend, readerPredicateFailed, readerSourceFailed, configParse,
    configInvalid, workerShutdown, workerSpawn, transportClosed, transportIo, transportRejected]

/-- The part of a code before its first dot; a code without a dot has no domain. -/
def domain? (code : String) : Option String :=
  let chars := code.toList
  if chars.contains '.' then some (String.ofList (chars.takeWhile (· ≠ '.'))) else none

/-- The category of the faults with a code. An empty chain is a matter of configuration, and a
failed source one of the transport; the other codes go by their domain. -/
def category (code : String) : Category :=
  if code = chainEmpty then .configuration
  else if code = readerSourceFailed then .transport
  else match domain? code with
    | some "chain" => .stageFailure
    | some "attribute" | some "config" => .configuration
    | some "session" | some "protocol" | some "reader" => .protocol
    | some "transport" => .transport
    | _ => .internal

end Code

/-- The category of a fault. -/
def category (fault : Fault) : Category :=
  Code.category fault.code

end Fault

/-! ### Faults of the error domains -/

/-- The fault that reports a failure of the transport. -/
def TransportError.toFault (error : TransportError) : Fault where
  code := match error with
    | .closed => Fault.Code.transportClosed
    | .io _ => Fault.Code.transportIo
    | .rejected _ => Fault.Code.transportRejected
  message := error.message
  causes := [.transport error]

/-- The fault that reports a refused declaration. -/
def AttributeError.toFault (error : AttributeError) : Fault where
  code := match error with
    | .typeMismatch .. => Fault.Code.attributeTypeMismatch
    | .slotsExhausted .. => Fault.Code.attributeSlotsExhausted
  message := error.message
  causes := [.declaration error]

/-- The fault that reports refused settings. -/
def SettingsError.toFault (error : SettingsError) : Fault where
  code := match error with
    | .parse => Fault.Code.configParse
    | .invalid .. => Fault.Code.configInvalid
  message := error.message
  causes := [.settings error]

end Conduit
