import Conduit.Fault

/-!
# Phases of a session

A session is new, connected, closing or closed, and only ever moves towards closed.
-/

namespace Conduit

/-- How far a session has come. -/
inductive SessionPhase where
  | new | connected | closing | closed
  deriving DecidableEq, Repr, Inhabited

namespace SessionPhase

/-- The phases in their order. -/
def all : List SessionPhase :=
  [new, connected, closing, closed]

/-- The name of a phase in messages. -/
def display : SessionPhase → String
  | new => "new"
  | connected => "connected"
  | closing => "closing"
  | closed => "closed"

/-- The name of a phase in inspection texts. -/
def name : SessionPhase → String
  | new => "New"
  | connected => "Connected"
  | closing => "Closing"
  | closed => "Closed"

/-- Whether frames may be sent: a closing session still answers its peer. -/
def isConnected (phase : SessionPhase) : Bool :=
  phase == connected || phase == closing

/-- Whether nothing follows the phase. -/
def isTerminal (phase : SessionPhase) : Bool :=
  phase == closed

/-- The five moves that a session can make. -/
def canMoveTo : SessionPhase → SessionPhase → Bool
  | new, connected => true
  | new, closed => true
  | connected, closing => true
  | connected, closed => true
  | closing, closed => true
  | _, _ => false

end SessionPhase

/-- A session operation that its phase does not allow. -/
inductive SessionError where
  /-- The operation needs a connected session. -/
  | notConnected (phase : SessionPhase)
  /-- The operation comes after the session began to close. -/
  | alreadyClosed (phase : SessionPhase)
  deriving DecidableEq, Repr

namespace SessionError

/-- The message of a refused operation. -/
def message : SessionError → String
  | notConnected phase => "session is not connected (state: " ++ phase.display ++ ")"
  | alreadyClosed phase => "session is already closed (state: " ++ phase.display ++ ")"

/-- The fault that reports a refused operation. -/
def toFault (error : SessionError) : Fault where
  code := match error with
    | notConnected _ => Fault.Code.sessionNotConnected
    | alreadyClosed _ => Fault.Code.sessionClosed
  message := error.message

end SessionError

end Conduit
