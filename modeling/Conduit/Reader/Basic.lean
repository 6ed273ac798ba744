import Conduit.Reader.Rule
import Conduit.Transport.Basic

/-!
# Incremental readers

A reader collects the fragments that a connection delivers until its completion rule says that they
make up a message, hands the message to its sink, and begins anew. When the rule fails, what was
collected is dropped and the failure reported, and the reader goes on. Once its source is closed a
reader neither collects nor reports anything more.
-/

namespace Conduit

/-- What takes the messages of a reader. -/
structure Sink (W C : Type) where
  /-- Takes a complete message. -/
  completed : C → Buffer → StateM W C
  /-- Takes a failure of the message in progress. -/
  failed : C → Fault → StateM W C

/-- What became of one fragment. -/
inductive ReadProgress where
  /-- More data is needed. -/
  | awaitingMore
  /-- A message was completed and handed over. -/
  | completed
  /-- The fragment was dropped, or dropped together with what was collected. -/
  | discarded
  deriving DecidableEq, Repr, Inhabited

/-- The name of a progress. -/
def ReadProgress.name : ReadProgress → String
  | awaitingMore => "AwaitingMore"
  | completed => "Completed"
  | discarded => "Discarded"

/-- A reader with a rule state in `P` and a sink state in `C`. -/
structure Reader (P C : Type) where
  /-- The connection it reads from. -/
  connection : ConnectionId
  /-- The state of the completion rule. -/
  rule : P
  /-- The state of the sink. -/
  sink : C
  /-- The fragments collected so far. -/
  buffer : Buffer := .empty
  /-- Whether the source is closed. -/
  closed : Bool := false
  /-- The number of messages handed over. -/
  completedMessages : Nat := 0
  deriving Inhabited

namespace Reader

variable {W P C : Type}

/-- The length of what is collected. -/
def bufferedLength (reader : Reader P C) : Nat :=
  reader.buffer.length

/-- The failure that is reported when the rule fails. -/
def ruleFault (cause : Fault) : Fault :=
  Fault.withCause
    { code := Fault.Code.readerPredicateFailed
      message := "completion predicate failed; in-flight message discarded" } cause

/-- The failure that is reported when the transport fails. -/
def sourceFault (error : TransportError) : Fault where
  code := Fault.Code.readerSourceFailed
  message := "transport failed while reading: " ++ error.message
  causes := [.transport error]

/-- Takes a fragment. -/
def onFragment (rule : CompletionRule W P) (sink : Sink W C) (reader : Reader P C)
    (fragment : Bytes) : StateM W (ReadProgress × Reader P C) := do
  if reader.closed then
    return (.discarded, reader)
  if fragment.isEmpty then
    return (.awaitingMore, reader)
  let buffer := reader.buffer.append fragment
  let (verdict, state) ← rule.evaluate reader.rule buffer
  match verdict with
  | .ok true =>
    let state ← rule.reset state
    let taken ← sink.completed reader.sink buffer
    return (.completed, { reader with
      rule := state, sink := taken, buffer := .empty
      completedMessages := reader.completedMessages + 1 })
  | .ok false =>
    return (.awaitingMore, { reader with rule := state, buffer })
  | .error cause =>
    let state ← rule.reset state
    let taken ← sink.failed reader.sink (ruleFault cause)
    return (.discarded, { reader with rule := state, sink := taken, buffer := .empty })

/-- Closes the source. What was collected is dropped without a word. -/
def markSourceClosed (rule : CompletionRule W P) (reader : Reader P C) :
    StateM W (Reader P C) := do
  if reader.closed then
    return reader
  let state ← rule.reset reader.rule
  return { reader with rule := state, buffer := .empty, closed := true }

/-- Closes the source and reports why. A closed reader reports nothing. -/
def fail (rule : CompletionRule W P) (sink : Sink W C) (reader : Reader P C) (fault : Fault) :
    StateM W (Reader P C) := do
  if reader.closed then
    return reader
  let state ← rule.reset reader.rule
  let taken ← sink.failed reader.sink fault
  return { reader with rule := state, sink := taken, buffer := .empty, closed := true }

/-- The flags that answer a fragment. -/
def flags : ReadProgress → Intercept
  | .awaitingMore => Intercept.incomplete ||| Intercept.reset
  | .completed | .discarded => .completed

/-- Takes a read event, and tells the transport how to go on. -/
def intercept (rule : CompletionRule W P) (sink : Sink W C) (reader : Reader P C) :
    ReadEvent → StateM W (Intercept × Reader P C)
  | .fragment bytes => do
    if bytes.isEmpty && !reader.closed then
      return (.incomplete, reader)
    let (progress, reader) ← reader.onFragment rule sink bytes
    return (flags progress, reader)
  | .endOfStream => do
    return (.completed, ← reader.markSourceClosed rule)
  | .failed error => do
    return (.completed, ← reader.fail rule sink (sourceFault error))

end Reader

end Conduit
