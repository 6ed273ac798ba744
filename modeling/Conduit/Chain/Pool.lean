import Conduit.Chain.Basic

/-!
# Pools of chain instances

To run a chain takes an instance, which remembers the stage to go on with and keeps the attributes
of the invocation. A pool keeps the instances that nobody uses and hands out the one returned last;
it makes a new one when it has none. An instance is reset when it is returned.
-/

namespace Conduit

/-- The state of one invocation of a chain. -/
structure ChainInstance where
  /-- The number of the instance within its pool, from one. -/
  id : Nat
  /-- The position of the stage to go on with. -/
  cursor : Nat := 0
  /-- How often in a row that stage asked to be run again. -/
  consecutiveReruns : Nat := 0
  /-- The attributes of the invocation. -/
  invocation : AttributeStore
  deriving Inhabited

namespace ChainInstance

/-- The instance as it was when it was new. -/
def reset (inst : ChainInstance) : ChainInstance :=
  { inst with cursor := 0, consecutiveReruns := 0, invocation := inst.invocation.clear }

end ChainInstance

/-- What a pool has done so far, and what it holds. -/
structure ChainPoolStats where
  /-- The instances made. -/
  created : Nat
  /-- The instances handed out again. -/
  reused : Nat
  /-- The instances returned. -/
  released : Nat
  /-- The instances that nobody uses. -/
  idle : Nat
  deriving DecidableEq, Repr

/-- The instances of a chain that nobody uses. -/
structure ChainPool (S : Type) where
  /-- The chain. -/
  chain : Chain S
  /-- The unused instances, the last one returned first. -/
  idle : List ChainInstance := []
  /-- The number of instances made. -/
  created : Nat := 0
  /-- The number of times that an instance was handed out again. -/
  reused : Nat := 0
  /-- The number of returns. -/
  released : Nat := 0
  deriving Inhabited

namespace ChainPool

variable {S : Type}

/-- Hands out an instance. The attributes of a new one belong to the given registry. -/
def acquire (registry : Registry) : StateM (ChainPool S) ChainInstance := do
  let pool ← get
  match pool.idle with
  | inst :: idle =>
    set { pool with idle, reused := pool.reused + 1 }
    return inst
  | [] =>
    set { pool with created := pool.created + 1 }
    return { id := pool.created + 1, invocation := .new registry }

/-- Takes an instance back. -/
def release (pool : ChainPool S) (inst : ChainInstance) : ChainPool S :=
  { pool with idle := inst.reset :: pool.idle, released := pool.released + 1 }

/-- The counters of a pool. -/
def stats (pool : ChainPool S) : ChainPoolStats :=
  ⟨pool.created, pool.reused, pool.released, pool.idle.length⟩

/-- The inspection text of a pool. -/
def inspect (pool : ChainPool S) : String :=
  Text.inspectRecord "ChainPool"
    [("chain", Text.quote pool.chain.name),
      ("stats", Text.inspectRecord "ChainPoolStats"
        [("created", toString pool.created), ("reused", toString pool.reused),
          ("released", toString pool.released), ("idle", toString pool.idle.length)])]

end ChainPool

end Conduit
