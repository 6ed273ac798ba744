import Conduit.Chain.Run
import Conduit.Transport.Basic
import Conduit.Worker.Thread

/-!
# Connections

A connection runs the messages that arrive on it through a chain. It keeps the attributes that live
as long as itself, and the lease of a pass that was suspended: the next message or event goes on with
that pass instead of starting a new one. Every pass is a unit of work on the running thread.
-/

namespace Conduit

/-- The chains and workers within the state `W`. -/
structure ConnectionHost (W S : Type) extends ChainHost W S, WorkerHost W

/-- A connection. -/
structure Connection where
  /-- Its number. -/
  id : ConnectionId
  /-- Its attributes. -/
  attributes : AttributeStore
  /-- The pool of the chain it runs. -/
  pool : PoolRef
  /-- The lease of a suspended pass. -/
  suspended : Option Lease := none
  deriving Inhabited

namespace Connection

variable {W S : Type}

/-- A connection without attributes; they belong to the given registry. -/
def new (id : ConnectionId) (pool : PoolRef) (registry : Registry) : Connection where
  id
  attributes := .new registry
  pool

/-- Whether a pass is suspended. -/
def isSuspended (connection : Connection) : Bool :=
  connection.suspended.isSome

/-- What an operation on a connection comes to: how the pass went, unless it unwound. -/
abbrev Answer := Except Panic (Except Fault Directive)

/-- Runs an event through the chain on a lease, which is kept if the pass is suspended. -/
def runPass (host : ConnectionHost W S) (connection : Connection) (event : Event) (lease : Lease) :
    StateM W (Answer × Connection) := do
  let (outcome, attributes) ← host.runUnit (host.execute lease event connection.attributes)
  let connection := { connection with attributes, suspended := none }
  match outcome with
  | .ok (.ok (.suspended lease)) =>
    return (.ok (.ok .suspend), { connection with suspended := some lease })
  | .ok (.ok outcome) => return (.ok (.ok outcome.directive), connection)
  | .ok (.error failure) => return (.ok (.error failure.fault), connection)
  | .error panic => return (.error panic, connection)

/-- Runs an event through the chain, in the suspended pass if there is one. -/
def dispatch (host : ConnectionHost W S) (connection : Connection) (event : Event) :
    StateM W (Answer × Connection) := do
  match connection.suspended with
  | some lease => connection.runPass host event lease
  | none => connection.runPass host event (← host.acquire connection.pool)

/-- Runs a complete message through the chain. -/
def handleMessage (host : ConnectionHost W S) (connection : Connection) (message : Buffer) :
    StateM W (Answer × Connection) :=
  connection.dispatch host (.read message)

/-- The failure to resume a connection without a suspended pass. -/
def notSuspendedFault (id : ConnectionId) : Fault where
  code := Fault.Code.chainNotSuspended
  message := "connection " ++ id.display ++ " has no suspended chain"

/-- Goes on with the suspended pass. -/
def resume (host : ConnectionHost W S) (connection : Connection) (event : Event) :
    StateM W (Answer × Connection) :=
  if connection.isSuspended then connection.dispatch host event
  else return (.ok (.error (notSuspendedFault connection.id)), connection)

/-- Gives up a suspended pass, which returns its instance. -/
def abandon (host : ConnectionHost W S) (connection : Connection) : StateM W Connection := do
  match connection.suspended with
  | none => return connection
  | some lease =>
    host.release lease
    return { connection with suspended := none }

/-- Closes the connection: a suspended pass is given up, the close event run through the chain, a
pass that this leaves suspended given up as well, and the attributes cleared. Unwinding skips what
comes after it. -/
def close (host : ConnectionHost W S) (connection : Connection) :
    StateM W (Answer × Connection) := do
  let connection ← connection.abandon host
  let (answer, connection) ← connection.dispatch host { kind := .close }
  match answer with
  | .error _ => return (answer, connection)
  | .ok _ =>
    let connection ← connection.abandon host
    return (answer, { connection with attributes := connection.attributes.clear })

/-- The inspection text of a connection on a chain. -/
def inspect (connection : Connection) (chainName : String) : String :=
  Text.inspectRecord "ConnectionDriver"
    [("connection", connection.id.inspect), ("chain", Text.quote chainName),
      ("suspended", toString connection.isSuspended)]

end Connection

end Conduit
