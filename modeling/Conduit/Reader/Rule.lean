import Conduit.Buffer.Search
import Conduit.Fault

/-!
# Completion rules

A completion rule decides whether the bytes collected so far make up a complete message. It may keep
a state of its own between decisions, which it is told to reset whenever the collected bytes are
handed over or dropped.
-/

namespace Conduit

/-- A rule with states in `P`, whose decisions may read and change `W`. -/
structure CompletionRule (W P : Type) where
  /-- Whether the collected bytes are complete. -/
  evaluate : P → Buffer → StateM W (Except Fault Bool × P)
  /-- The state to go on with after the collected bytes were handed over or dropped. -/
  reset : P → StateM W P

namespace CompletionRule

variable {W : Type}

/-- The rule that decides by the collected bytes alone. -/
def ofTest (test : Buffer → Except Fault Bool) : CompletionRule W Unit where
  evaluate _ buffer := pure (test buffer, ())
  reset _ := pure ()

/-- A message is complete once it has the given number of bytes. -/
def atLeast (count : Nat) : CompletionRule W Unit :=
  ofTest fun buffer ↦ .ok (count ≤ buffer.length)

end CompletionRule

/-- A byte sequence that ends a message, and how much of the collected bytes is known not to hold
it. -/
structure Terminator where
  /-- The sequence. -/
  sequence : Bytes
  /-- The length of the known part. -/
  scanned : Nat := 0
  deriving DecidableEq, Repr, Inhabited

namespace Terminator

/-- Looks for the sequence in the bytes that are new since the last time, and in as many of the old
ones as it may begin in. -/
def evaluate (t : Terminator) (buffer : Buffer) : Bool × Terminator :=
  let scanned := if buffer.length < t.scanned then 0 else t.scanned
  let start := scanned - (t.sequence.length - 1)
  if (buffer.findFrom? t.sequence start).isSome then (true, { t with scanned := 0 })
  else (false, { t with scanned := buffer.length })

/-- Forgets the known part. -/
def reset (t : Terminator) : Terminator :=
  { t with scanned := 0 }

/-- A message is complete once it holds the sequence. -/
def rule {W : Type} : CompletionRule W Terminator where
  evaluate t buffer :=
    let (done, t) := t.evaluate buffer
    pure (.ok done, t)
  reset t := pure t.reset

end Terminator

end Conduit
