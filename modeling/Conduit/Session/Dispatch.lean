import Conduit.Chain.Run
import Conduit.Session.Basic

/-!
# Dispatching frames to sessions

The stage at the end of a chain that hands a decoded frame to the session of its connection. An
earlier stage leaves the frame in an attribute of the invocation, and the session is bound in an
attribute of the connection. The frame is taken out of its attribute before anything else, so it is
handed on once.
-/

namespace Conduit

/-- The attributes through which frames and sessions reach the stage. -/
structure SessionDispatch where
  /-- The frame, an attribute of the invocation. -/
  frame : Attribute .frame
  /-- The session, an attribute of the connection. -/
  session : Attribute .session
  deriving Inhabited

namespace SessionDispatch

/-- Declares the two attributes. -/
def declare : StateM Registry (Except AttributeError SessionDispatch) := do
  match ← Registry.declare "spindle.session.frame" .absent with
  | .error error => return .error error
  | .ok frame =>
    match ← Registry.declare "spindle.session.handle" .absent with
    | .error error => return .error error
    | .ok session => return .ok ⟨frame, session⟩

/-- The label of the stage. -/
def label : String :=
  "session-dispatch"

/-- The failure to find a session for a frame. -/
def missingFault : Fault where
  code := Fault.Code.sessionMissing
  message := "no session bound to the connection"

/-- Hands a frame to a session, and says how the chain goes on: after a close frame it stops. -/
def deliver {W L : Type} (host : SessionHost W L) (s : SessionRef) (frame : Frame) :
    StateM W (Except Fault Directive) := do
  match frame.kind with
  | .text | .binary =>
    if frame.final then host.onMessage s frame else host.onFragment s frame
    return .ok .invoke
  | .continuation =>
    host.onFragment s frame
    return .ok .invoke
  | .ping => return (← host.onPing s frame.payload).map fun () ↦ .invoke
  | .pong =>
    host.onPong s frame.payload
    return .ok .invoke
  | .close =>
    return (← host.onClose s (frame.asClose?.getD .normal)).map fun () ↦ .stop

/-- What the stage does: without a frame it just goes on, and a frame needs a session. -/
def process {W L : Type} (host : SessionHost W L) (stage : SessionDispatch) (view : StageView) :
    StateM W (StageAnswer × StageView) := do
  let (frame?, invocation) := view.invocation.remove stage.frame
  let view := { view with invocation }
  match frame?, view.connection.peek stage.session with
  | none, _ => return (.ok (.ok .invoke), view)
  | some _, none => return (.ok (.error missingFault), view)
  | some frame, some s => return (.ok (← deliver host s frame), view)

end SessionDispatch

end Conduit
