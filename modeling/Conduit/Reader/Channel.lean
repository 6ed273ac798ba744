import Conduit.Reader.Basic

/-!
# Readers on a queue

A reader may take its events from a queue instead of a transport. Being armed for the next fragment
then means taking the next event, and a queue that ran out without anyone left to fill it counts as
a closed source.
-/

namespace Conduit

/-- A reader and the queue of its events. -/
structure QueuedReader (P C : Type) where
  /-- The reader. -/
  reader : Reader P C
  /-- The events not yet taken, oldest first. -/
  events : List ReadEvent := []
  /-- Whether someone may still add events. -/
  connected : Bool := true
  deriving Inhabited

/-- What waiting for the end of a unit comes to. -/
inductive NextUnit where
  /-- The unit ended with these flags. -/
  | ended (flags : Intercept)
  /-- The source is closed. -/
  | closed
  /-- The queue is empty, and more events may come. -/
  | waiting
  deriving DecidableEq, Repr, Inhabited

namespace QueuedReader

variable {W P C : Type}

/-- Takes events until one ends the unit. -/
def takeUnit (rule : CompletionRule W P) (sink : Sink W C) (connected : Bool) :
    Reader P C → List ReadEvent → StateM W (NextUnit × QueuedReader P C)
  | reader, [] => do
    if connected then
      return (.waiting, ⟨reader, [], connected⟩)
    return (.closed, ⟨← reader.markSourceClosed rule, [], connected⟩)
  | reader, event :: events => do
    let (flags, reader) ← reader.intercept rule sink event
    if flags.wantsMore then
      takeUnit rule sink connected reader events
    else
      return (.ended flags, ⟨reader, events, connected⟩)

/-- Takes events until one ends the unit; a closed reader takes none. -/
def nextUnit (rule : CompletionRule W P) (sink : Sink W C) (queued : QueuedReader P C) :
    StateM W (NextUnit × QueuedReader P C) := do
  if queued.reader.closed then
    return (.closed, queued)
  takeUnit rule sink queued.connected queued.reader queued.events

/-- Takes units until the source is closed, or until it would have to wait. Every unit takes an
event, so `fuel` units are enough when it exceeds the number of events. -/
def drainUnits (rule : CompletionRule W P) (sink : Sink W C) :
    Nat → QueuedReader P C → StateM W (QueuedReader P C)
  | 0, queued => pure queued
  | fuel + 1, queued => do
    let (unit, queued) ← queued.nextUnit rule sink
    match unit with
    | .ended _ => if queued.reader.closed then return queued else drainUnits rule sink fuel queued
    | _ => return queued

/-- Takes units until the source is closed, and gives the number of messages handed over. -/
def drain (rule : CompletionRule W P) (sink : Sink W C) (queued : QueuedReader P C) :
    StateM W (Nat × QueuedReader P C) := do
  let queued ← drainUnits rule sink (queued.events.length + 1) queued
  return (queued.reader.completedMessages, queued)

end QueuedReader

end Conduit
