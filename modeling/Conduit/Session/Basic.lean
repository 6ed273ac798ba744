import Conduit.Session.Frame
import Conduit.Session.Phase
import Conduit.Shared
import Conduit.Text.Inspect

/-!
# Sessions

A session stands between a protocol, which puts frames on the wire, and listeners, which hear what
arrives. Both are plugged in: listeners are tags in `L`, and what they and the protocol do is given
by the host. They may call back into the session, so every operation works on the session as it is in
the shared state and never keeps a copy across a call. The listeners of an event are those registered
when it is announced, in the order of their registration. A listener hears of the close of its
session at most once: it is taken out first and told then.
-/

namespace Conduit

/-- The number of a listener's registration. -/
structure ListenerId where
  number : Nat
  deriving DecidableEq, Repr, Inhabited

/-- The inspection text of a registration number. -/
def ListenerId.inspect (id : ListenerId) : String :=
  Text.inspectWrapped "ListenerId" (toString id.number)

/-- A session with its listeners. -/
structure Session (L : Type) where
  /-- How far it has come. -/
  phase : SessionPhase := .new
  /-- The listeners in the order of their registration. -/
  listeners : List (ListenerId × L) := []
  /-- The number of the next registration. -/
  nextListener : Nat := 1
  deriving Inhabited

/-- What a listener hears. -/
inductive Notice where
  | connect
  | message (frame : Frame)
  | fragment (frame : Frame)
  | ping (payload : Bytes)
  | pong (payload : Bytes)
  | close (reason : CloseReason)
  deriving DecidableEq, Repr

/-- What a protocol does for a session. -/
structure Protocol (W : Type) where
  /-- Sends a frame. -/
  send : Frame → StateM W (Except Fault Unit)
  /-- Sends one piece of a message; without a way of its own, as a continuation frame. -/
  stream : Bool → Bytes → StateM W (Except Fault Unit) :=
    fun last payload ↦ send (.continuation payload last)
  /-- Sends a close frame. -/
  close : CloseReason → StateM W (Except Fault Unit)
  /-- Lets go of the connection. -/
  teardown : StateM W Unit

/-- The sessions within the state `W`, their protocols and their listeners. -/
structure SessionHost (W L : Type) where
  /-- The sessions. -/
  session : SessionRef → Cell W (Session L)
  /-- The protocol of a session. -/
  protocol : SessionRef → Protocol W
  /-- Tells a listener something about a session. -/
  notify : L → SessionRef → Notice → StateM W Unit

/-- What an attempt to close a session comes to. -/
inductive CloseOutcome where
  /-- The close frame was sent. -/
  | handshakeSent
  /-- The session was not connected, and nothing was done. -/
  | noOp (phase : SessionPhase)
  deriving DecidableEq, Repr

namespace Session

variable {L : Type}

/-- Registers a listener. -/
def addListener (listener : L) : StateM (Session L) ListenerId := do
  let session ← get
  let id : ListenerId := ⟨session.nextListener⟩
  set { session with
    listeners := session.listeners ++ [(id, listener)]
    nextListener := session.nextListener + 1 }
  return id

/-- Takes a listener out, if it is still registered. -/
def takeListener (id : ListenerId) : StateM (Session L) (Option L) := do
  let session ← get
  set { session with listeners := session.listeners.filter fun e ↦ e.1 ≠ id }
  return session.listeners.lookup id

/-- Moves from one phase to another, or gives the phase that was found instead. -/
def move (source target : SessionPhase) : StateM (Session L) (Except SessionPhase Unit) := do
  let session ← get
  if session.phase = source then
    set { session with phase := target }
    return .ok ()
  else
    return .error session.phase

/-- Moves to the last phase, and gives the phase before. -/
def forceClosed : StateM (Session L) SessionPhase := do
  let session ← get
  set { session with phase := .closed }
  return session.phase

/-- The inspection text of a session. -/
def inspect (session : Session L) : String :=
  Text.inspectRecord "Session"
    [("state", session.phase.name), ("listeners", toString session.listeners.length)]

end Session

namespace SessionHost

variable {W L : Type} (host : SessionHost W L)

/-- The phase of a session. -/
def phase (s : SessionRef) : StateM W SessionPhase :=
  return (← (host.session s).get).phase

/-- Registers a listener with a session. -/
def addListener (s : SessionRef) (listener : L) : StateM W ListenerId :=
  (host.session s).run (Session.addListener listener)

/-- Takes a listener out, and says whether it was still registered. -/
def removeListener (s : SessionRef) (id : ListenerId) : StateM W Bool :=
  return (← (host.session s).run (Session.takeListener id)).isSome

/-- Tells the listeners registered now, one after another. -/
def announce (s : SessionRef) (notice : Notice) : StateM W Unit := do
  let session ← (host.session s).get
  session.listeners.forM fun e ↦ host.notify e.2 s notice

/-- Takes a listener out and tells it of the close. One that is gone is passed over. -/
def dismissListener (s : SessionRef) (reason : CloseReason) (id : ListenerId) : StateM W Unit := do
  match ← (host.session s).run (Session.takeListener id) with
  | some listener => host.notify listener s (.close reason)
  | none => pure ()

/-- Dismisses the listeners registered now, one after another. -/
def drainListeners (s : SessionRef) (reason : CloseReason) : StateM W Unit := do
  let session ← (host.session s).get
  (session.listeners.map Prod.fst).forM (host.dismissListener s reason)

/-- Closes a session for good; the first time, the protocol lets go of the connection. -/
def finish (s : SessionRef) : StateM W Unit := do
  let before ← (host.session s).run Session.forceClosed
  if !before.isTerminal then
    (host.protocol s).teardown

/-! ### What arrives -/

/-- The handshake is done. Saying so again changes nothing. -/
def onConnect (s : SessionRef) : StateM W (Except SessionError Unit) := do
  match ← (host.session s).run (Session.move .new .connected) with
  | .ok () =>
    host.announce s .connect
    return .ok ()
  | .error .connected => return .ok ()
  | .error phase => return .error (.alreadyClosed phase)

/-- A complete message arrived. -/
def onMessage (s : SessionRef) (frame : Frame) : StateM W Unit :=
  host.announce s (.message frame)

/-- A piece of a message arrived. -/
def onFragment (s : SessionRef) (frame : Frame) : StateM W Unit :=
  host.announce s (.fragment frame)

/-- A pong arrived. -/
def onPong (s : SessionRef) (payload : Bytes) : StateM W Unit :=
  host.announce s (.pong payload)

/-! ### What is sent -/

/-- Runs an operation if the phase of the session allows sending. -/
def whenConnected (s : SessionRef) (send : StateM W (Except Fault Unit)) :
    StateM W (Except Fault Unit) := do
  let phase ← host.phase s
  if phase.isConnected then send else return .error (SessionError.notConnected phase).toFault

/-- Sends a frame. -/
def sendFrame (s : SessionRef) (frame : Frame) : StateM W (Except Fault Unit) :=
  host.whenConnected s ((host.protocol s).send frame)

/-- Sends a text message. -/
def sendText (s : SessionRef) (text : String) : StateM W (Except Fault Unit) :=
  host.sendFrame s (.text text)

/-- Sends a message of bytes. -/
def sendBinary (s : SessionRef) (payload : Bytes) : StateM W (Except Fault Unit) :=
  host.sendFrame s (.binary payload)

/-- Sends a ping. -/
def sendPing (s : SessionRef) (payload : Bytes) : StateM W (Except Fault Unit) :=
  host.sendFrame s (.ping payload)

/-- Sends a pong. -/
def sendPong (s : SessionRef) (payload : Bytes) : StateM W (Except Fault Unit) :=
  host.sendFrame s (.pong payload)

/-- Sends one piece of a message. -/
def sendFragment (s : SessionRef) (last : Bool) (payload : Bytes) :
    StateM W (Except Fault Unit) :=
  host.whenConnected s ((host.protocol s).stream last payload)

/-- A ping arrived: it is answered first, and announced if the answer could be sent. -/
def onPing (s : SessionRef) (payload : Bytes) : StateM W (Except Fault Unit) := do
  match ← host.sendPong s payload with
  | .ok () =>
    host.announce s (.ping payload)
    return .ok ()
  | .error fault => return .error fault

/-- Sends a frame in several sessions, one after another, and gives the number of those where that
succeeded. The session on whose behalf this is done has to be connected and not closing. -/
def broadcast (s : SessionRef) (recipients : List SessionRef) (frame : Frame) :
    StateM W (Except Fault Nat) := do
  let phase ← host.phase s
  if phase ≠ .connected then
    return .error (SessionError.alreadyClosed phase).toFault
  let delivered ← recipients.foldlM (fun count recipient ↦ do
    match ← host.sendFrame recipient frame with
    | .ok () => return count + 1
    | .error _ => return count) 0
  return .ok delivered

/-! ### Closing -/

/-- Closes a connected session: the close frame is sent. In any other phase nothing happens. -/
def close (s : SessionRef) (reason : CloseReason) : StateM W (Except Fault CloseOutcome) := do
  match ← (host.session s).run (Session.move .connected .closing) with
  | .ok () => return (← (host.protocol s).close reason).map fun () ↦ .handshakeSent
  | .error phase => return .ok (.noOp phase)

/-- A close frame arrived. A connected session sends it back, any other one is closed for good. The
listeners are told in either case, and then a failure to send is reported. -/
def onClose (s : SessionRef) (reason : CloseReason) : StateM W (Except Fault Unit) := do
  let echoed ←
    match ← (host.session s).run (Session.move .connected .closing) with
    | .ok () => (host.protocol s).close reason
    | .error _ => do
      host.finish s
      pure (.ok ())
  host.drainListeners s reason
  return echoed

/-- The connection is gone: the session is closed for good, and the remaining listeners are told. -/
def markClosed (s : SessionRef) : StateM W Unit := do
  host.finish s
  host.drainListeners s .abnormal

end SessionHost

end Conduit
