import Conduit.Session.Basic
import Mathlib.Logic.Function.Basic

/-!
# Programs that use sessions

What uses sessions is a program: it calls their operations one after another, and goes on as it is
answered. The protocol and the listeners that an operation calls back are such programs themselves, so
all of this may happen from inside a callback, at any depth and on any session. Some state that is
shared by all of it, and that nothing is known of, lets callbacks depend on more than what they are
called with.

`SessionWorld` is where a program runs. Every registration of a listener is told apart from the others
by its number, so that a notice says whom it reaches. The world keeps a history of what happened, with
the sessions as they were right after; the programs do not see it.
-/

namespace Conduit

/-! ### Operations -/

/-- An operation of a session. -/
inductive SessionCall (L : Type) where
  | onConnect
  | onMessage (frame : Frame)
  | onFragment (frame : Frame)
  | onPing (payload : Bytes)
  | onPong (payload : Bytes)
  | onClose (reason : CloseReason)
  | close (reason : CloseReason)
  | markClosed
  | sendText (text : String)
  | sendBinary (payload : Bytes)
  | sendFragment (last : Bool) (payload : Bytes)
  | sendPing (payload : Bytes)
  | sendPong (payload : Bytes)
  | sendFrame (frame : Frame)
  | broadcast (recipients : List SessionRef) (frame : Frame)
  | addListener (listener : L)
  | removeListener (id : ListenerId)

/-- How an operation answers. -/
abbrev SessionCall.Answer {L : Type} : SessionCall L → Type
  | onConnect => Except SessionError Unit
  | onMessage _ | onFragment _ | onPong _ | markClosed => Unit
  | onPing _ | onClose _ => Except Fault Unit
  | close _ => Except Fault CloseOutcome
  | sendText _ | sendBinary _ | sendFragment _ _ | sendPing _ | sendPong _ | sendFrame _ =>
    Except Fault Unit
  | broadcast _ _ => Except Fault Nat
  | addListener _ => ListenerId
  | removeListener _ => Bool

/-- A listener under the number of its registration. -/
structure Registration (L : Type) where
  /-- The number. -/
  id : ListenerId
  /-- The listener. -/
  listener : L

namespace SessionHost

/-- Carries out an operation. A listener is registered together with the number that it is given. -/
def operate {W L : Type} (host : SessionHost W (Registration L)) (s : SessionRef) :
    (op : SessionCall L) → StateM W op.Answer
  | .onConnect => host.onConnect s
  | .onMessage frame => host.onMessage s frame
  | .onFragment frame => host.onFragment s frame
  | .onPing payload => host.onPing s payload
  | .onPong payload => host.onPong s payload
  | .onClose reason => host.onClose s reason
  | .close reason => host.close s reason
  | .markClosed => host.markClosed s
  | .sendText text => host.sendText s text
  | .sendBinary payload => host.sendBinary s payload
  | .sendFragment last payload => host.sendFragment s last payload
  | .sendPing payload => host.sendPing s payload
  | .sendPong payload => host.sendPong s payload
  | .sendFrame frame => host.sendFrame s frame
  | .broadcast recipients frame => host.broadcast s recipients frame
  | .addListener listener => do
    let session ← (host.session s).get
    host.addListener s ⟨⟨session.nextListener⟩, listener⟩
  | .removeListener id => host.removeListener s id

end SessionHost

/-! ### The world -/

/-- A call to what is plugged into a session. -/
inductive SessionCallback (L : Type) where
  /-- The protocol is to send a frame. -/
  | send (s : SessionRef) (frame : Frame)
  /-- The protocol is to send a piece of a message. -/
  | stream (s : SessionRef) (last : Bool) (payload : Bytes)
  /-- The protocol is to send a close frame. -/
  | close (s : SessionRef) (reason : CloseReason)
  /-- The protocol is to let go of the connection. -/
  | teardown (s : SessionRef)
  /-- A listener is told something. -/
  | notify (registration : Registration L) (s : SessionRef) (notice : Notice)

/-- What happens around sessions. -/
inductive SessionEvent (L : Type) where
  /-- An operation begins. -/
  | began (s : SessionRef) (op : SessionCall L)
  /-- A session moved from one phase to another. -/
  | moved (s : SessionRef) (source target : SessionPhase)
  /-- A protocol or a listener is called. -/
  | called (callback : SessionCallback L)
  /-- A protocol or a listener has answered. A listener has nothing to say. -/
  | returned (callback : SessionCallback L) (answer : Except Fault Unit)
  /-- An operation has answered. -/
  | ended (s : SessionRef) (op : SessionCall L) (answer : op.Answer)

/-- What happened, and how things are right after. -/
structure SessionMoment (L : Type) where
  /-- The number of the operation by which it happened, the innermost one in progress. -/
  call : Nat
  /-- What happened. -/
  event : SessionEvent L
  /-- The sessions. -/
  sessions : SessionRef → Session (Registration L)

/-- The state in which programs run. -/
structure SessionWorld (L U : Type) where
  /-- The sessions. -/
  sessions : SessionRef → Session (Registration L)
  /-- How many operations have begun. -/
  begun : Nat := 0
  /-- The numbers of the operations in progress, the innermost first. -/
  running : List Nat := []
  /-- What has happened, the last first. -/
  history : List (SessionMoment L) := []
  /-- Whatever else the programs share. -/
  user : U

namespace SessionWorld

variable {L U : Type}

/-- A world in which nothing has happened, with new sessions. -/
def fresh (user : U) : SessionWorld L U where
  sessions _ := {}
  user

/-- Adds to the history that something has happened. -/
def note (w : SessionWorld L U) (event : SessionEvent L) : SessionWorld L U :=
  { w with history := ⟨w.running.headD 0, event, w.sessions⟩ :: w.history }

/-- The world with another state of a session, which is noted when the phase is another one. -/
def write (w : SessionWorld L U) (s : SessionRef) (session : Session (Registration L)) :
    SessionWorld L U :=
  let changed := { w with sessions := Function.update w.sessions s session }
  if (w.sessions s).phase = session.phase then changed
  else changed.note (.moved s (w.sessions s).phase session.phase)

/-- The world once an operation has begun. -/
def begin (w : SessionWorld L U) (s : SessionRef) (op : SessionCall L) : SessionWorld L U :=
  { w with begun := w.begun + 1, running := (w.begun + 1) :: w.running }.note (.began s op)

/-- The world once the innermost operation has answered. -/
def finish (w : SessionWorld L U) (s : SessionRef) (op : SessionCall L) (answer : op.Answer) :
    SessionWorld L U :=
  { w.note (.ended s op answer) with running := w.running.tail }

/-- Calls back what acts on the world in the given way. -/
def callBack (act : SessionCallback L → StateM (SessionWorld L U) (Except Fault Unit))
    (callback : SessionCallback L) : StateM (SessionWorld L U) (Except Fault Unit) :=
  fun w ↦
    let (answer, w) := act callback (w.note (.called callback))
    (answer, w.note (.returned callback answer))

/-- The sessions of a world, with protocols and listeners that act on the world in the given way. -/
def host (act : SessionCallback L → StateM (SessionWorld L U) (Except Fault Unit)) :
    SessionHost (SessionWorld L U) (Registration L) where
  session s :=
    { read := fun w ↦ w.sessions s
      write := fun session w ↦ w.write s session }
  protocol s :=
    { send := fun frame ↦ callBack act (.send s frame)
      stream := fun last payload ↦ callBack act (.stream s last payload)
      close := fun reason ↦ callBack act (.close s reason)
      teardown := discard (callBack act (.teardown s)) }
  notify registration s notice := discard (callBack act (.notify registration s notice))

/-- Carries out an operation. -/
def perform (act : SessionCallback L → StateM (SessionWorld L U) (Except Fault Unit))
    (s : SessionRef) (op : SessionCall L) : StateM (SessionWorld L U) op.Answer :=
  fun w ↦
    let (answer, w) := (host act).operate s op (w.begin s op)
    (answer, w.finish s op answer)

end SessionWorld

/-! ### Programs -/

/-- What a protocol, a listener, or whoever else uses sessions, does. -/
inductive SessionProgram (L U : Type) where
  /-- End; a protocol answers. -/
  | done (answer : Except Fault Unit)
  /-- Look at the shared state, and change it. -/
  | user (change : U → U) (next : U → SessionProgram L U)
  /-- Look at a session. -/
  | look (s : SessionRef) (next : Session (Registration L) → SessionProgram L U)
  /-- Call an operation; what the protocols and the listeners do during it is a program for each
  callback. -/
  | call (s : SessionRef) (op : SessionCall L)
      (callbacks : SessionCallback L → SessionProgram L U)
      (next : op.Answer → SessionProgram L U)

/-- Runs a program. -/
def SessionProgram.run {L U : Type} :
    SessionProgram L U → StateM (SessionWorld L U) (Except Fault Unit)
  | .done answer => pure answer
  | .user change next => fun w ↦ (next w.user).run { w with user := change w.user }
  | .look s next => fun w ↦ (next (w.sessions s)).run w
  | .call s op callbacks next => fun w ↦
    let (answer, w) := SessionWorld.perform (fun callback ↦ (callbacks callback).run) s op w
    (next answer).run w

end Conduit
