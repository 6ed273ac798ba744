import Conduit.Text.Inspect
import Conduit.Worker.Clock

/-!
# Transaction probes

A probe tells others since when a worker has been busy with its transaction, and whether that is
longer than it should be. Both the start and the timeout are kept as 64-bit numbers: the start as the
time since the probe was made plus one, with zero for an idle worker, and the timeout with the
largest number for none.
-/

namespace Conduit

/-- What is known of a worker's transaction. -/
structure Probe where
  /-- The name of the worker. -/
  worker : String
  /-- The time at which the probe was made. -/
  anchor : Nat
  /-- The encoded start of the transaction. -/
  started : Nat
  /-- The encoded timeout. -/
  timeout : Nat
  deriving DecidableEq, Repr, Inhabited

namespace Probe

/-- The encoded start of an idle worker. -/
def idle : Nat := 0

/-- The encoded timeout of a worker without one; also the largest 64-bit number. -/
def unlimited : Nat := UInt64.size - 1

/-- The encoded start of a transaction that starts at a given time. -/
def encodeStart (anchor now : Nat) : Nat :=
  min (now - anchor + 1) unlimited

/-- The encoded timeout. Finite timeouts that do not fit 64 bits are shortened to the longest one. -/
def encodeTimeout : Option Nat → Nat
  | none => unlimited
  | some duration => if duration < UInt64.size then duration else unlimited - 1

/-- The probe of an idle worker. -/
def new (worker : String) (anchor : Nat) (timeout : Option Nat) : Probe :=
  ⟨worker, anchor, idle, encodeTimeout timeout⟩

/-- Notes the start of a transaction. -/
def begin (probe : Probe) (now : Nat) : Probe :=
  { probe with started := encodeStart probe.anchor now }

/-- Notes the end of the transaction. -/
def finish (probe : Probe) : Probe :=
  { probe with started := idle }

/-- Changes the timeout. -/
def setTimeout (probe : Probe) (timeout : Option Nat) : Probe :=
  { probe with timeout := encodeTimeout timeout }

/-- When the transaction started; an idle worker has none. -/
def startedAt? (probe : Probe) : Option Nat :=
  if probe.started = idle then none else some (probe.anchor + (probe.started - 1))

/-- How long the transaction has been going on at a given time. -/
def elapsed? (probe : Probe) (now : Nat) : Option Nat :=
  probe.startedAt?.map (now - ·)

/-- The timeout, if there is one. -/
def timeout? (probe : Probe) : Option Nat :=
  if probe.timeout = unlimited then none else some probe.timeout

/-- Whether the transaction has been going on for longer than the timeout. -/
def isStalled (probe : Probe) (now : Nat) : Bool :=
  match probe.elapsed? now, probe.timeout? with
  | some elapsed, some timeout => timeout < elapsed
  | _, _ => false

/-- The inspection text of a probe. -/
def inspect (probe : Probe) : String :=
  Text.inspectRecord "TransactionProbe"
    [("worker", Text.quote probe.worker),
      ("started_at", Text.inspectOption (probe.startedAt?.map Duration.inspect)),
      ("timeout", Text.inspectOption (probe.timeout?.map Duration.inspect))]

end Probe

end Conduit
