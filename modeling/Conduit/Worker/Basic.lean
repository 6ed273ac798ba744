import Conduit.Attribute.Store
import Conduit.Settings.Basic
import Conduit.Worker.Cache
import Conduit.Worker.Probe

/-!
# Workers

A worker is what one thread has at hand while it works: an arena, a cache of objects, attributes that
live as long as a unit of work, and the record of its transaction. Units of work nest; only the
outermost one begins and ends the transaction and clears the attributes.
-/

namespace Conduit

/-- What a thread has at hand. -/
structure Worker where
  /-- The name of the worker. -/
  name : String
  /-- Its scratch buffers. -/
  arena : Arena
  /-- Its cached objects. -/
  cache : ObjectCache
  /-- The attributes of the unit of work in progress. -/
  attributes : AttributeStore
  /-- The clock it goes by. -/
  clock : ClockRef
  /-- The record of its transaction. -/
  probe : Probe
  /-- The number of units of work in progress. -/
  unitDepth : Nat
  deriving Inhabited

namespace Worker

/-- An idle worker. Its clock shows `now`, and its attributes belong to the given registry. -/
def new (name : String) (settings : WorkerSettings) (clock : ClockRef) (now : Nat)
    (registry : Registry) : Worker where
  name
  arena := .new settings.arenaLimits
  cache := .new settings.objectCacheMaxPerType
  attributes := .new registry
  clock
  probe := .new name now settings.transactionTimeout?
  unitDepth := 0

/-- Begins a transaction. -/
def beginTransaction (worker : Worker) (now : Nat) : Worker :=
  { worker with probe := worker.probe.begin now }

/-- Ends the transaction. -/
def endTransaction (worker : Worker) : Worker :=
  { worker with probe := worker.probe.finish }

/-- Changes the timeout of transactions. -/
def setTimeout (worker : Worker) (timeout : Option Nat) : Worker :=
  { worker with probe := worker.probe.setTimeout timeout }

/-- Enters a unit of work; the outermost one begins the transaction. -/
def enterUnit (worker : Worker) (now : Nat) : Worker :=
  let worker := if worker.unitDepth = 0 then worker.beginTransaction now else worker
  { worker with unitDepth := worker.unitDepth + 1 }

/-- Leaves a unit of work; the outermost one ends the transaction and clears the attributes. -/
def leaveUnit (worker : Worker) : Worker :=
  let worker := { worker with unitDepth := worker.unitDepth - 1 }
  if worker.unitDepth = 0 then
    let worker := worker.endTransaction
    { worker with attributes := worker.attributes.clear }
  else worker

/-- The inspection text of a worker. -/
def inspect (worker : Worker) : String :=
  Text.inspectRecord "WorkerResources"
    [("name", Text.quote worker.name), ("arena", worker.arena.inspect),
      ("cache", worker.cache.inspect), ("attributes", worker.attributes.inspect),
      ("probe", worker.probe.inspect), ("unit_depth", toString worker.unitDepth)]

end Worker

end Conduit
