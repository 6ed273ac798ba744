import Conduit.Connection.Sink
import Conduit.Proofs.Connection.Passage
import Conduit.Proofs.Reader.Units

/-!
# Readers that feed a connection

A reader whose sink runs messages through the chain of a connection takes read events, and somebody
takes the failures that were collected, at any time. What the reader does on the way is a sequence of
calls (`FeedCall`): it asks its rule, resets it, and has messages dealt with. Played on the same states,
these calls give notes of what the rule said and how each message went (`FeedNote`).

The rule may keep a state and the stages may do anything, so nothing can be said of what the rule will
say; that is why its answers are noted, and not computed. What an operation leaves of the open fragments
follows from its notes (`FeedStep`), and a run is such steps one after another (`Reader.made_feed`). The
reader and the open fragments stay in step (`Reader.Collects`), as a reader forgets everything when the
rule has spoken.
-/

namespace Conduit

/-! ### Operations, calls and notes -/

/-- What is done around a reader that feeds a connection. -/
inductive FeedOp (W : Type) where
  /-- The reader takes a read event. -/
  | read (event : ReadEvent)
  /-- The failures are taken. -/
  | take
  /-- Something else happens. -/
  | elsewhere (change : W → W)

/-- What a reader that feeds a connection does, and what happens meanwhile. -/
inductive FeedCall (W : Type) where
  /-- It asks the rule about the collected bytes. -/
  | judge (buffer : Buffer)
  /-- It tells the rule to start anew. -/
  | reset
  /-- It has a message dealt with. -/
  | dispatch (message : Buffer)
  /-- It reports a failure of the source. -/
  | broken (error : TransportError)
  /-- Something else happens. -/
  | elsewhere (change : W → W)

/-- What there is to note of a call. -/
inductive FeedNote (W S : Type) where
  /-- What the rule said about the collected bytes. -/
  | judged (buffer : Buffer) (verdict : Except Fault Bool)
  /-- The state in which a message was handed to the connection, the message, the stages that were
  visited for it, and the answer. -/
  | dispatched (before : W) (message : Buffer) (visits : List (StageVisit W S))
      (answer : Connection.Answer)
  /-- A failure of the source. -/
  | broken (error : TransportError)

namespace FeedNote

variable {W S : Type}

/-- The collected bytes, and what the rule said about them. -/
def judgement? : FeedNote W S → Option (Buffer × Except Fault Bool)
  | judged buffer verdict => some (buffer, verdict)
  | _ => none

/-- The message that was dealt with. -/
def message? : FeedNote W S → Option Buffer
  | dispatched _ message _ _ => some message
  | _ => none

/-- The stages that were visited. -/
def visits : FeedNote W S → List (StageVisit W S)
  | dispatched _ _ visits _ => visits
  | _ => []

/-- The failure of the source. -/
def broken? : FeedNote W S → Option TransportError
  | broken error => some error
  | _ => none

/-- The failure that is reported of what was noted, if there is one. -/
def fault? : FeedNote W S → Option Fault
  | judged _ (.error cause) => some (Reader.ruleFault cause)
  | dispatched _ _ _ (.ok (.error fault)) => some fault
  | broken error => some (Reader.sourceFault error)
  | _ => none

end FeedNote

section Feed

variable {W S P : Type}

/-- Makes a call, on the state of the rule. -/
def FeedCall.make (host : ConnectionHost W S) (cell : Cell W Connection) (rule : CompletionRule W P) :
    FeedCall W → P → StateM W (List (FeedNote W S) × P)
  | .judge buffer, state => do
    let (verdict, state) ← rule.evaluate state buffer
    return ([.judged buffer verdict], state)
  | .reset, state => do
    return ([], ← rule.reset state)
  | .dispatch message, state => do
    let before ← get
    let connection ← cell.get
    let (_, _, visits) := connection.handleMessage host.visiting message (before, [])
    let (answer, changed) ← connection.handleMessage host message
    cell.set changed
    return ([.dispatched before message visits answer], state)
  | .broken error, state => return ([.broken error], state)
  | .elsewhere change, state => fun w ↦ (([], state), change w)

/-- Makes calls in order, and collects what there is to note. -/
def FeedCall.play (host : ConnectionHost W S) (cell : Cell W Connection) (rule : CompletionRule W P) :
    List (FeedCall W) → P → StateM W (List (FeedNote W S) × P)
  | [], state => pure ([], state)
  | call :: calls, state => do
    let (notes, state) ← call.make host cell rule state
    let (rest, state) ← play host cell rule calls state
    return (notes ++ rest, state)

/-- Does what is asked. Taking the failures gives them; the other operations give nothing. -/
def FeedOp.perform (host : ConnectionHost W S) (cell : Cell W Connection) (rule : CompletionRule W P)
    (reader : Reader P ConnectionSink) :
    FeedOp W → StateM W (List Fault × Reader P ConnectionSink)
  | .read event => do
    let (_, reader) ← reader.intercept rule (ConnectionSink.sink host cell) event
    return ([], reader)
  | .take =>
    let (failures, sink) := reader.sink.takeFailures
    return (failures, { reader with sink })
  | .elsewhere change => fun w ↦ (([], reader), change w)

/-- Does what is asked, in order, and collects what was taken each time. -/
def Reader.feed (host : ConnectionHost W S) (cell : Cell W Connection) (rule : CompletionRule W P) :
    Reader P ConnectionSink → List (FeedOp W) →
      StateM W (List (List Fault) × Reader P ConnectionSink)
  | reader, [] => pure ([], reader)
  | reader, op :: ops => do
    let (taken, reader) ← op.perform host cell rule reader
    let (rest, last) ← feed host cell rule reader ops
    return (taken :: rest, last)

end Feed

/-! ### What one operation comes to -/

/-- What an operation does to the fragments that are open, which calls the reader makes for it, and what
there is to note of them. There are no open fragments once the source is closed. -/
inductive FeedStep {W S : Type} : Option (List Bytes) → FeedOp W → List (FeedCall W) →
    List (FeedNote W S) → Option (List Bytes) → Prop where
  | take {pending : Option (List Bytes)} : FeedStep pending .take [] [] pending
  | elsewhere {pending : Option (List Bytes)} {change : W → W} :
      FeedStep pending (.elsewhere change) [.elsewhere change] [] pending
  /-- Nothing is read from a closed source. -/
  | closed {event : ReadEvent} : FeedStep none (.read event) [] [] none
  | empty {pending : List Bytes} :
      FeedStep (some pending) (.read (.fragment [])) [] [] (some pending)
  /-- More is needed. -/
  | more {pending : List Bytes} {bytes : Bytes} (h : bytes ≠ []) :
      FeedStep (some pending) (.read (.fragment bytes)) [.judge (.ofFragments (pending ++ [bytes]))]
        [.judged (.ofFragments (pending ++ [bytes])) (.ok false)] (some (pending ++ [bytes]))
  /-- The message is complete, and is dealt with. -/
  | complete {pending : List Bytes} {bytes : Bytes} {before : W} {visits : List (StageVisit W S)}
      {answer : Connection.Answer} (h : bytes ≠ []) :
      FeedStep (some pending) (.read (.fragment bytes))
        [.judge (.ofFragments (pending ++ [bytes])), .reset,
          .dispatch (.ofFragments (pending ++ [bytes]))]
        [.judged (.ofFragments (pending ++ [bytes])) (.ok true),
          .dispatched before (.ofFragments (pending ++ [bytes])) visits answer] (some [])
  /-- The rule failed. -/
  | spoiled {pending : List Bytes} {bytes : Bytes} {cause : Fault} (h : bytes ≠ []) :
      FeedStep (some pending) (.read (.fragment bytes))
        [.judge (.ofFragments (pending ++ [bytes])), .reset]
        [.judged (.ofFragments (pending ++ [bytes])) (.error cause)] (some [])
  | ended {pending : List Bytes} :
      FeedStep (some pending) (.read .endOfStream) [.reset] [] none
  | failed {pending : List Bytes} {error : TransportError} :
      FeedStep (some pending) (.read (.failed error)) [.reset, .broken error] [.broken error] none

/-- Operations one after another. -/
inductive FeedSteps {W S : Type} : Option (List Bytes) → List (FeedOp W) → List (FeedCall W) →
    List (FeedNote W S) → Prop where
  | nil {pending : Option (List Bytes)} : FeedSteps pending [] [] []
  | cons {pending next : Option (List Bytes)} {op : FeedOp W} {ops : List (FeedOp W)}
      {calls more : List (FeedCall W)} {notes rest : List (FeedNote W S)}
      (step : FeedStep pending op calls notes next) (steps : FeedSteps next ops more rest) :
      FeedSteps pending (op :: ops) (calls ++ more) (notes ++ rest)

section Made

variable {W S P : Type} {host : ConnectionHost W S} {cell : Cell W Connection}
  {rule : CompletionRule W P}

/-- The reader has collected the open fragments. -/
def Reader.Collects {C : Type} (reader : Reader P C) : Option (List Bytes) → Prop
  | none => reader.closed = true
  | some pending => reader.closed = false ∧ reader.buffer = .ofFragments pending

/-- The way from one reader and state to another: the calls that were made, what there is to note of
them, and the failures that were taken. -/
structure FeedMade (host : ConnectionHost W S) (cell : Cell W Connection) (rule : CompletionRule W P)
    (reader : Reader P ConnectionSink) (w : W) (calls : List (FeedCall W))
    (notes : List (FeedNote W S)) (taken : List Fault) (last : Reader P ConnectionSink) (w' : W) :
    Prop where
  played : FeedCall.play host cell rule calls reader.rule w = ((notes, last.rule), w')
  recorded : taken ++ last.sink.failures =
    reader.sink.failures ++ notes.filterMap FeedNote.fault?
  counted : last.completedMessages =
    reader.completedMessages + (notes.filterMap FeedNote.message?).length

theorem FeedCall.play_cons (host : ConnectionHost W S) (cell : Cell W Connection)
    (rule : CompletionRule W P) (call : FeedCall W) (calls : List (FeedCall W)) (state : P) (w : W) :
    FeedCall.play host cell rule (call :: calls) state w =
      let made := call.make host cell rule state w
      let rest := FeedCall.play host cell rule calls made.1.2 made.2
      ((made.1.1 ++ rest.1.1, rest.1.2), rest.2) :=
  rfl

theorem FeedCall.play_append (host : ConnectionHost W S) (cell : Cell W Connection)
    (rule : CompletionRule W P) (calls more : List (FeedCall W)) (state : P) (w : W) :
    FeedCall.play host cell rule (calls ++ more) state w =
      let played := FeedCall.play host cell rule calls state w
      let rest := FeedCall.play host cell rule more played.1.2 played.2
      ((played.1.1 ++ rest.1.1, rest.1.2), rest.2) := by
  induction calls generalizing state w with
  | nil => rfl
  | cons call calls ih => simp only [List.cons_append, FeedCall.play_cons, ih, List.append_assoc]

namespace FeedMade

variable {reader next last : Reader P ConnectionSink} {w w' w'' : W} {calls more : List (FeedCall W)}
  {notes rest : List (FeedNote W S)} {taken later : List Fault}

theorem trans (h : FeedMade host cell rule reader w calls notes taken next w')
    (hnext : FeedMade host cell rule next w' more rest later last w'') :
    FeedMade host cell rule reader w (calls ++ more) (notes ++ rest) (taken ++ later) last w'' where
  played := by
    simp only [FeedCall.play_append, h.played, hnext.played]
  recorded := by
    rw [List.append_assoc, hnext.recorded, ← List.append_assoc, h.recorded, List.filterMap_append,
      List.append_assoc]
  counted := by
    rw [hnext.counted, h.counted, List.filterMap_append, List.length_append, Nat.add_assoc]

/-- Nothing was called for. -/
theorem refl (reader : Reader P ConnectionSink) (w : W) :
    FeedMade host cell rule reader w [] [] [] reader w where
  played := rfl
  recorded := by simp
  counted := by simp

end FeedMade

/-! ### The sink -/

/-- What a message comes to, when it is dealt with. -/
def FeedCall.dispatchOf (host : ConnectionHost W S) (cell : Cell W Connection) (message : Buffer)
    (w : W) : (Connection.Answer × Connection) × W :=
  (cell.read w).handleMessage host message w

/-- The visits that are made for a message. -/
def FeedCall.visitsOf (host : ConnectionHost W S) (cell : Cell W Connection) (message : Buffer)
    (w : W) : List (StageVisit W S) :=
  ((cell.read w).handleMessage host.visiting message (w, [])).2.2

theorem FeedCall.make_judge (host : ConnectionHost W S) (cell : Cell W Connection)
    (rule : CompletionRule W P) (buffer : Buffer) (state : P) (w : W) :
    (FeedCall.judge buffer).make host cell rule state w =
      let judged := rule.evaluate state buffer w
      (([.judged buffer judged.1.1], judged.1.2), judged.2) :=
  rfl

theorem FeedCall.make_reset (host : ConnectionHost W S) (cell : Cell W Connection)
    (rule : CompletionRule W P) (state : P) (w : W) :
    FeedCall.reset.make host cell rule state w =
      let state := rule.reset state w
      (([], state.1), state.2) :=
  rfl

theorem FeedCall.make_dispatch (host : ConnectionHost W S) (cell : Cell W Connection)
    (rule : CompletionRule W P) (message : Buffer) (state : P) (w : W) :
    (FeedCall.dispatch message).make host cell rule state w =
      let done := FeedCall.dispatchOf host cell message w
      (([.dispatched w message (FeedCall.visitsOf host cell message w) done.1.1], state),
        cell.write done.1.2 done.2) :=
  rfl

/-- The sink deals with a message as a call does, and keeps the failure that there is to note of it. -/
theorem ConnectionSink.completed_eq (host : ConnectionHost W S) (cell : Cell W Connection)
    (taken : ConnectionSink) (message : Buffer) (visits : List (StageVisit W S)) (w : W) :
    (ConnectionSink.sink host cell).completed taken message w =
      let done := FeedCall.dispatchOf host cell message w
      (⟨taken.failures ++
          [(.dispatched w message visits done.1.1 : FeedNote W S)].filterMap FeedNote.fault?⟩,
        cell.write done.1.2 done.2) := by
  rcases hdone : FeedCall.dispatchOf host cell message w with ⟨⟨answer, left⟩, w'⟩
  have hhandled : (cell.read w).handleMessage host message w = ((answer, left), w') := hdone
  simp only [ConnectionSink.sink, bind, StateT.bind, Cell.get, hhandled]
  rcases answer with panic | fault | directive
  · show (taken, _) = ((⟨taken.failures ++ []⟩ : ConnectionSink), _)
    rw [List.append_nil]
  · rfl
  · show (taken, _) = ((⟨taken.failures ++ []⟩ : ConnectionSink), _)
    rw [List.append_nil]

/-! ### One operation -/

/-- To read an event is to have it intercepted. -/
theorem FeedOp.perform_read (host : ConnectionHost W S) (cell : Cell W Connection)
    (rule : CompletionRule W P) (reader : Reader P ConnectionSink) (event : ReadEvent) (w : W) :
    (FeedOp.read event).perform host cell rule reader w =
      let step := reader.intercept rule (ConnectionSink.sink host cell) event w
      (([], step.1.2), step.2) :=
  rfl

/-- A fragment that is not empty. -/
theorem FeedOp.made_fragment (host : ConnectionHost W S) (cell : Cell W Connection)
    (rule : CompletionRule W P) {reader : Reader P ConnectionSink} {pending : List Bytes}
    (h : reader.Collects (some pending)) {bytes : Bytes} (hne : bytes ≠ []) (w : W) :
    ∃ calls notes next, FeedStep (some pending) (.read (.fragment bytes)) calls notes next ∧
      (reader.onFragment rule (ConnectionSink.sink host cell) bytes w).1.2.Collects next ∧
      FeedMade host cell rule reader w calls notes []
        (reader.onFragment rule (ConnectionSink.sink host cell) bytes w).1.2
        (reader.onFragment rule (ConnectionSink.sink host cell) bytes w).2 := by
  obtain ⟨hopen, hbuffer⟩ := h
  have hbuffer' : reader.buffer.append bytes = .ofFragments (pending ++ [bytes]) := by
    rw [hbuffer, Buffer.ofFragments_concat]
  have hstep := Reader.onFragment_of_ne_nil rule (ConnectionSink.sink host cell) hopen hne w
  rcases hjudged : rule.evaluate reader.rule (.ofFragments (pending ++ [bytes])) w with
    ⟨⟨cause | done, state⟩, w₁⟩
  · -- the rule failed: what was collected is dropped
    simp only [hbuffer', hjudged] at hstep
    refine ⟨[.judge (.ofFragments (pending ++ [bytes])), .reset],
      [.judged (.ofFragments (pending ++ [bytes])) (.error cause)], some [], .spoiled hne, ?_, ?_⟩
    · rw [hstep]
      exact ⟨hopen, rfl⟩
    · rw [hstep]
      refine ⟨?_, rfl, rfl⟩
      simp only [FeedCall.play_cons, FeedCall.make_judge, hjudged]
      rfl
  · cases done with
    | true =>
      -- the message is complete: it is dealt with once the rule was told to start anew
      simp only [hbuffer', hjudged] at hstep
      generalize hreset : rule.reset state w₁ = start at hstep
      rw [ConnectionSink.completed_eq host cell reader.sink _
        (FeedCall.visitsOf host cell (.ofFragments (pending ++ [bytes])) start.2) start.2] at hstep
      refine ⟨[.judge (.ofFragments (pending ++ [bytes])), .reset,
          .dispatch (.ofFragments (pending ++ [bytes]))],
        [.judged (.ofFragments (pending ++ [bytes])) (.ok true),
          .dispatched start.2 (.ofFragments (pending ++ [bytes]))
            (FeedCall.visitsOf host cell (.ofFragments (pending ++ [bytes])) start.2)
            (FeedCall.dispatchOf host cell (.ofFragments (pending ++ [bytes])) start.2).1.1],
        some [], .complete hne, ?_, ?_⟩
      · rw [hstep]
        exact ⟨hopen, rfl⟩
      · rw [hstep]
        refine ⟨?_, rfl, rfl⟩
        simp only [FeedCall.play_cons, FeedCall.make_judge, FeedCall.make_reset,
          FeedCall.make_dispatch, hjudged, hreset]
        rfl
    | false =>
      simp only [hbuffer', hjudged] at hstep
      refine ⟨[.judge (.ofFragments (pending ++ [bytes]))],
        [.judged (.ofFragments (pending ++ [bytes])) (.ok false)], some (pending ++ [bytes]),
        .more hne, ?_, ?_⟩
      · rw [hstep]
        exact ⟨hopen, rfl⟩
      · rw [hstep]
        refine ⟨?_, (List.append_nil _).symm, rfl⟩
        simp only [FeedCall.play_cons, FeedCall.make_judge, hjudged]
        rfl

/-- **One operation.** -/
theorem FeedOp.made (host : ConnectionHost W S) (cell : Cell W Connection) (rule : CompletionRule W P)
    {reader : Reader P ConnectionSink} {pending : Option (List Bytes)}
    (h : reader.Collects pending) (op : FeedOp W) (w : W) :
    ∃ calls notes next, FeedStep pending op calls notes next ∧
      (op.perform host cell rule reader w).1.2.Collects next ∧
      FeedMade host cell rule reader w calls notes (op.perform host cell rule reader w).1.1
        (op.perform host cell rule reader w).1.2 (op.perform host cell rule reader w).2 := by
  cases op with
  | take =>
    refine ⟨[], [], pending, .take, by cases pending <;> exact h, rfl, ?_, rfl⟩
    show reader.sink.failures ++ [] = reader.sink.failures ++ []
    rfl
  | elsewhere change =>
    exact ⟨[.elsewhere change], [], pending, .elsewhere, h, rfl, by simp [FeedOp.perform], rfl⟩
  | read event =>
    cases pending with
    | none =>
      obtain ⟨hreader, hstate⟩ :=
        Reader.intercept_of_closed rule (ConnectionSink.sink host cell) h event w
      refine ⟨[], [], none, .closed, ?_⟩
      rw [perform_read]
      simp only [hreader, hstate]
      exact ⟨h, .refl reader w⟩
    | some pending =>
      obtain ⟨hopen, hbuffer⟩ := h
      cases event with
      | fragment bytes =>
        rw [perform_read, Reader.intercept_fragment]
        by_cases hne : bytes = []
        · subst hne
          rw [if_pos (by simp [hopen])]
          exact ⟨[], [], some pending, .empty, ⟨hopen, hbuffer⟩, .refl reader w⟩
        · rw [if_neg (by simp [hne])]
          exact made_fragment host cell rule ⟨hopen, hbuffer⟩ hne w
      | endOfStream =>
        rw [perform_read, Reader.intercept_endOfStream, Reader.markSourceClosed_of_open hopen]
        exact ⟨[.reset], [], none, .ended, rfl, rfl, (List.append_nil _).symm, rfl⟩
      | failed error =>
        rw [perform_read, Reader.intercept_failed, Reader.fail_of_open hopen]
        exact ⟨[.reset, .broken error], [.broken error], none, .failed, rfl, rfl, rfl, rfl⟩

/-! ### Runs -/

theorem Reader.feed_cons (host : ConnectionHost W S) (cell : Cell W Connection)
    (rule : CompletionRule W P) (reader : Reader P ConnectionSink) (op : FeedOp W)
    (ops : List (FeedOp W)) (w : W) :
    reader.feed host cell rule (op :: ops) w =
      let done := op.perform host cell rule reader w
      let rest := done.1.2.feed host cell rule ops done.2
      ((done.1.1 :: rest.1.1, rest.1.2), rest.2) :=
  rfl

/-- **A run.** -/
theorem Reader.made_feed (host : ConnectionHost W S) (cell : Cell W Connection)
    (rule : CompletionRule W P) {reader : Reader P ConnectionSink} {pending : Option (List Bytes)}
    (h : reader.Collects pending) (ops : List (FeedOp W)) (w : W) :
    ∃ calls notes, FeedSteps pending ops calls notes ∧
      let run := reader.feed host cell rule ops w
      FeedMade host cell rule reader w calls notes run.1.1.flatten run.1.2 run.2 := by
  induction ops generalizing reader pending w with
  | nil => exact ⟨[], [], .nil, .refl reader w⟩
  | cons op ops ih =>
    obtain ⟨calls, notes, next, hstep, hnext, hmade⟩ := op.made host cell rule h w
    obtain ⟨more, rest, hsteps, hrest⟩ := ih hnext (op.perform host cell rule reader w).2
    refine ⟨calls ++ more, notes ++ rest, .cons hstep hsteps, ?_⟩
    rw [feed_cons]
    exact hmade.trans hrest

end Made

end Conduit
