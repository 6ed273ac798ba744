import Conduit.Reader.Basic

/-!
# Runs of a reader

A run asks a reader for one operation after another and notes what can be seen from outside after
each. The rule and the sink stay open: whatever they keep in their own states and in the shared
state is threaded through, so a statement about the end of every run is one about every moment of it.

What a reader does to its rule and its sink is a sequence of calls (`ReaderCall`). Playing such a
sequence on the same states (`play`) says that exactly these calls were made, in this order, without
saying what they do.
-/

namespace Conduit

/-- What a reader can be asked to do. -/
inductive ReaderOp where
  /-- Take a fragment. -/
  | fragment (bytes : Bytes)
  /-- Take a read event of the transport. -/
  | intercept (event : ReadEvent)
  /-- Close the source. -/
  | close
  /-- Close the source and report why. -/
  | fail (fault : Fault)

/-- How a reader answers. -/
inductive ReaderAnswer where
  /-- What became of a fragment. -/
  | progress (progress : ReadProgress)
  /-- How the transport is to go on. -/
  | flags (flags : Intercept)
  /-- Closing has no answer. -/
  | none

/-- What a reader does to its rule and its sink. -/
inductive ReaderCall where
  /-- It asks the rule about the collected bytes. -/
  | evaluate (buffer : Buffer)
  /-- It tells the rule to start anew. -/
  | reset
  /-- It hands over a message. -/
  | completed (message : Buffer)
  /-- It reports a failure. -/
  | failed (fault : Fault)

namespace ReaderCall

/-- Whether the sink is called. -/
def isNotice : ReaderCall → Bool
  | completed _ | failed _ => true
  | _ => false

/-- The bytes about which the rule is asked. -/
def asked? : ReaderCall → Option Buffer
  | evaluate buffer => some buffer
  | _ => none

/-- Makes a call, on the states of the rule and the sink. -/
def make {W P C : Type} (rule : CompletionRule W P) (sink : Sink W C) :
    ReaderCall → P × C → StateM W (P × C)
  | evaluate buffer, (state, taken) => do
    let (_, state) ← rule.evaluate state buffer
    return (state, taken)
  | reset, (state, taken) => do
    return (← rule.reset state, taken)
  | completed message, (state, taken) => do
    return (state, ← sink.completed taken message)
  | failed fault, (state, taken) => do
    return (state, ← sink.failed taken fault)

end ReaderCall

/-- What can be seen of a reader after an operation. -/
structure ReaderReport where
  /-- The answer to the operation. -/
  answer : ReaderAnswer
  /-- The length of what is collected. -/
  buffered : Nat
  /-- The number of messages handed over. -/
  completed : Nat

namespace Reader

variable {W P C : Type}

/-- An open reader that has collected nothing. -/
def fresh (connection : ConnectionId) (rule : P) (sink : C) : Reader P C where
  connection
  rule
  sink

/-- Does what is asked. -/
def perform (rule : CompletionRule W P) (sink : Sink W C) (reader : Reader P C) :
    ReaderOp → StateM W (ReaderAnswer × Reader P C)
  | .fragment bytes => do
    let (progress, reader) ← reader.onFragment rule sink bytes
    return (.progress progress, reader)
  | .intercept event => do
    let (flags, reader) ← reader.intercept rule sink event
    return (.flags flags, reader)
  | .close => do
    return (.none, ← reader.markSourceClosed rule)
  | .fail fault => do
    return (.none, ← reader.fail rule sink fault)

/-- What can be seen of a reader once it gave an answer. -/
def report (reader : Reader P C) (answer : ReaderAnswer) : ReaderReport :=
  ⟨answer, reader.bufferedLength, reader.completedMessages⟩

/-- Does what is asked, in order, and reports after each operation. -/
def performAll (rule : CompletionRule W P) (sink : Sink W C) :
    Reader P C → List ReaderOp → StateM W (List ReaderReport × Reader P C)
  | reader, [] => pure ([], reader)
  | reader, op :: ops => do
    let (answer, reader) ← reader.perform rule sink op
    let (reports, last) ← performAll rule sink reader ops
    return (reader.report answer :: reports, last)

theorem performAll_cons (rule : CompletionRule W P) (sink : Sink W C) (reader : Reader P C)
    (op : ReaderOp) (ops : List ReaderOp) (w : W) :
    reader.performAll rule sink (op :: ops) w =
      let step := reader.perform rule sink op w
      let rest := step.1.2.performAll rule sink ops step.2
      ((step.1.2.report step.1.1 :: rest.1.1, rest.1.2), rest.2) :=
  rfl

/-- Makes calls in order. -/
def play (rule : CompletionRule W P) (sink : Sink W C) :
    List ReaderCall → P × C → StateM W (P × C)
  | [], states => pure states
  | call :: calls, states => do
    play rule sink calls (← call.make rule sink states)

theorem play_append (rule : CompletionRule W P) (sink : Sink W C) (calls more : List ReaderCall)
    (states : P × C) (w : W) :
    play rule sink (calls ++ more) states w =
      let played := play rule sink calls states w
      play rule sink more played.1 played.2 := by
  induction calls generalizing states w with
  | nil => rfl
  | cons call calls ih => exact ih _ _

theorem play_evaluate (rule : CompletionRule W P) (sink : Sink W C) (buffer : Buffer)
    (calls : List ReaderCall) (states : P × C) (w : W) :
    play rule sink (.evaluate buffer :: calls) states w =
      let judged := rule.evaluate states.1 buffer w
      play rule sink calls (judged.1.2, states.2) judged.2 :=
  rfl

/-! ### What one operation comes to -/

/-- A closed reader drops its fragments without asking anybody. -/
theorem onFragment_of_closed {rule : CompletionRule W P} {sink : Sink W C} {reader : Reader P C}
    (h : reader.closed = true) (fragment : Bytes) :
    reader.onFragment rule sink fragment = pure (.discarded, reader) := by
  rw [onFragment, if_pos h]

/-- An empty fragment is not looked at by an open reader. -/
theorem onFragment_nil {rule : CompletionRule W P} {sink : Sink W C} {reader : Reader P C}
    (h : reader.closed = false) :
    reader.onFragment rule sink [] = pure (.awaitingMore, reader) := by
  rw [onFragment, if_neg (by simp [h])]
  rfl

/-- An open reader asks its rule about the buffer with the fragment, and goes by the verdict. -/
theorem onFragment_of_ne_nil (rule : CompletionRule W P) (sink : Sink W C) {reader : Reader P C}
    (h : reader.closed = false) {fragment : Bytes} (hne : fragment ≠ []) (w : W) :
    reader.onFragment rule sink fragment w =
      let buffer := reader.buffer.append fragment
      let judged := rule.evaluate reader.rule buffer w
      match judged.1.1 with
      | .ok true =>
        let state := rule.reset judged.1.2 judged.2
        let taken := sink.completed reader.sink buffer state.2
        ((.completed, { reader with
          rule := state.1, sink := taken.1, buffer := .empty
          completedMessages := reader.completedMessages + 1 }), taken.2)
      | .ok false => ((.awaitingMore, { reader with rule := judged.1.2, buffer }), judged.2)
      | .error cause =>
        let state := rule.reset judged.1.2 judged.2
        let taken := sink.failed reader.sink (ruleFault cause) state.2
        ((.discarded, { reader with rule := state.1, sink := taken.1, buffer := .empty }),
          taken.2) := by
  have hempty : fragment.isEmpty = false := by simpa using hne
  simp only [onFragment, h, hempty, Bool.false_eq_true, if_false, bind, StateT.bind]
  rcases rule.evaluate reader.rule (reader.buffer.append fragment) w with ⟨⟨verdict, state⟩, w'⟩
  rcases verdict with cause | done
  · rfl
  · cases done <;> rfl

theorem markSourceClosed_of_closed {rule : CompletionRule W P} {reader : Reader P C}
    (h : reader.closed = true) : reader.markSourceClosed rule = pure reader := by
  rw [markSourceClosed, if_pos h]

/-- When its source is closed, an open reader starts its rule anew, and is closed. -/
theorem markSourceClosed_of_open {rule : CompletionRule W P} {reader : Reader P C}
    (h : reader.closed = false) (w : W) :
    reader.markSourceClosed rule w =
      let state := rule.reset reader.rule w
      ({ reader with rule := state.1, buffer := .empty, closed := true }, state.2) := by
  rw [markSourceClosed, if_neg (by simp [h])]
  rfl

theorem fail_of_closed {rule : CompletionRule W P} {sink : Sink W C} {reader : Reader P C}
    (h : reader.closed = true) (fault : Fault) : reader.fail rule sink fault = pure reader := by
  rw [fail, if_pos h]

/-- An open reader that fails starts its rule anew, reports the failure to its sink, and is closed. -/
theorem fail_of_open {rule : CompletionRule W P} {sink : Sink W C} {reader : Reader P C}
    (h : reader.closed = false) (fault : Fault) (w : W) :
    reader.fail rule sink fault w =
      let state := rule.reset reader.rule w
      let taken := sink.failed reader.sink fault state.2
      ({ reader with rule := state.1, sink := taken.1, buffer := .empty, closed := true },
        taken.2) := by
  rw [fail, if_neg (by simp [h])]
  rfl

/-- An empty fragment on an open reader is answered without being taken. -/
theorem intercept_fragment (rule : CompletionRule W P) (sink : Sink W C) (reader : Reader P C)
    (bytes : Bytes) (w : W) :
    reader.intercept rule sink (.fragment bytes) w =
      if bytes.isEmpty && !reader.closed then ((.incomplete, reader), w)
      else
        let step := reader.onFragment rule sink bytes w
        ((flags step.1.1, step.1.2), step.2) := by
  rw [intercept]
  split <;> rfl

theorem intercept_endOfStream (rule : CompletionRule W P) (sink : Sink W C) (reader : Reader P C)
    (w : W) :
    reader.intercept rule sink .endOfStream w =
      let step := reader.markSourceClosed rule w
      ((.completed, step.1), step.2) :=
  rfl

theorem intercept_failed (rule : CompletionRule W P) (sink : Sink W C) (reader : Reader P C)
    (error : TransportError) (w : W) :
    reader.intercept rule sink (.failed error) w =
      let step := reader.fail rule sink (sourceFault error) w
      ((.completed, step.1), step.2) :=
  rfl

/-- A closed reader stays as it is. -/
theorem intercept_of_closed (rule : CompletionRule W P) (sink : Sink W C)
    {reader : Reader P C} (h : reader.closed = true) (event : ReadEvent) (w : W) :
    (reader.intercept rule sink event w).1.2 = reader ∧
      (reader.intercept rule sink event w).2 = w := by
  cases event with
  | fragment bytes =>
    rw [intercept_fragment, if_neg (by simp [h]), onFragment_of_closed h]
    exact ⟨rfl, rfl⟩
  | endOfStream =>
    rw [intercept, markSourceClosed_of_closed h]
    exact ⟨rfl, rfl⟩
  | failed error =>
    rw [intercept, fail_of_closed h]
    exact ⟨rfl, rfl⟩

end Reader

end Conduit
