import Conduit.Proofs.Reader.Closing
import Conduit.Reader.Channel

/-!
# Readers on a queue that nobody fills any more

A queued reader is asked for the end of a unit, or to go on until its source is closed. Both are loops
around the reader, and they end at different places: the one where the flags do not want more, the other
where the reader is closed, and both where the queue has run out.

Main statement: whatever the calls, each of them takes events from the front of the queue, and the reader
is left as if it had been given these events directly (`QueuedReader.worksOff_turns`). For the end of a
unit `QueuedReader.TakesUnit` says which events these are; draining comes to `Reader.readThrough`, and
`QueuedReader.Drains` says that its loop ends.
-/

namespace Conduit

/-! ### Reading directly -/

namespace ReadEvent

/-- Whether the event closes the source. -/
def closes : ReadEvent → Bool
  | fragment _ => false
  | endOfStream | failed _ => true

/-- The events up to the first one that closes the source, which is included. -/
def uptoClosing : List ReadEvent → List ReadEvent
  | [] => []
  | event :: events => event :: if event.closes then [] else uptoClosing events

/-- The events after the first one that closes the source. -/
def afterClosing : List ReadEvent → List ReadEvent
  | [] => []
  | event :: events => if event.closes then events else afterClosing events

theorem uptoClosing_append_afterClosing (events : List ReadEvent) :
    uptoClosing events ++ afterClosing events = events := by
  induction events with
  | nil => rfl
  | cons event events ih =>
    rw [uptoClosing, afterClosing]
    split
    · rfl
    · exact congrArg (event :: ·) ih

/-- Events that do not close the source do not matter for what comes after the one that does. -/
theorem afterClosing_append {more : List ReadEvent} (h : ∀ event ∈ more, event.closes = false)
    (rest : List ReadEvent) : afterClosing (more ++ rest) = afterClosing rest := by
  induction more with
  | nil => rfl
  | cons event more ih =>
    obtain ⟨hgoes, hmore⟩ := List.forall_mem_cons.1 h
    rw [List.cons_append, afterClosing, if_neg (by simp [hgoes]), ih hmore]

end ReadEvent

namespace Reader

variable {W P C : Type} (rule : CompletionRule W P) (sink : Sink W C)

/-- Gives events to a reader, one after another. -/
def interceptAll : Reader P C → List ReadEvent → StateM W (List Intercept × Reader P C)
  | reader, [] => pure ([], reader)
  | reader, event :: events => do
    let (flags, reader) ← reader.intercept rule sink event
    let (more, reader) ← interceptAll reader events
    return (flags :: more, reader)

/-- Gives events to a reader up to the first one that closes the source, and closes the source when
there is none. -/
def readThrough (reader : Reader P C) (events : List ReadEvent) : StateM W (Reader P C) := do
  let (_, reader) ← reader.interceptAll rule sink (ReadEvent.uptoClosing events)
  if events.any ReadEvent.closes then return reader else reader.markSourceClosed rule

theorem interceptAll_cons (reader : Reader P C) (event : ReadEvent) (events : List ReadEvent) (w : W) :
    reader.interceptAll rule sink (event :: events) w =
      let step := reader.intercept rule sink event w
      let rest := step.1.2.interceptAll rule sink events step.2
      ((step.1.1 :: rest.1.1, rest.1.2), rest.2) :=
  rfl

theorem readThrough_nil (reader : Reader P C) (w : W) :
    reader.readThrough rule sink [] w = reader.markSourceClosed rule w :=
  rfl

/-- Reading through takes the events in turn, and stops at the one that closes the source. -/
theorem readThrough_cons (reader : Reader P C) (event : ReadEvent) (events : List ReadEvent) (w : W) :
    reader.readThrough rule sink (event :: events) w =
      let step := reader.intercept rule sink event w
      if event.closes then (step.1.2, step.2) else step.1.2.readThrough rule sink events step.2 := by
  cases hcloses : event.closes with
  | true =>
    simp only [readThrough, ReadEvent.uptoClosing, hcloses, List.any_cons, Bool.true_or, if_true]
    rfl
  | false =>
    simp only [readThrough, ReadEvent.uptoClosing, hcloses, List.any_cons, Bool.false_or,
      Bool.false_eq_true, if_false]
    rfl

variable {rule sink} {reader : Reader P C} {w : W}

/-- The source can be closed at any time, and then the reader is closed. -/
theorem closed_markSourceClosed (rule : CompletionRule W P) (reader : Reader P C) (w : W) :
    (reader.markSourceClosed rule w).1.closed = true := by
  cases hclosed : reader.closed with
  | true =>
    rw [markSourceClosed_of_closed hclosed]
    exact hclosed
  | false => rw [markSourceClosed_of_open hclosed]

/-- An open reader is closed by just the events that close the source. -/
theorem closed_intercept (h : reader.closed = false) (event : ReadEvent) (w : W) :
    (reader.intercept rule sink event w).1.2.closed = event.closes := by
  cases event with
  | fragment bytes =>
    obtain ⟨progress, left, w', calls, htakes⟩ := exists_takes rule sink h bytes w
    rw [intercept_fragment, htakes.plain]
    split
    · exact h
    · exact htakes.isOpen
  | endOfStream => exact closed_markSourceClosed rule reader w
  | failed error => rw [intercept_failed, fail_of_open h]; rfl

/-- An event that closes the source wants nothing more. -/
theorem closes_eq_false_of_wantsMore {event : ReadEvent}
    (h : (reader.intercept rule sink event w).1.1.wantsMore = true) : event.closes = false := by
  cases event with
  | fragment => rfl
  | endOfStream | failed =>
    have hwants : Intercept.completed.wantsMore = true := h
    exact absurd hwants (by decide)

/-- A closed reader is not changed by anything that it is given. -/
theorem readThrough_of_closed (h : reader.closed = true) (events : List ReadEvent) (w : W) :
    reader.readThrough rule sink events w = (reader, w) := by
  induction events with
  | nil => rw [readThrough_nil, markSourceClosed_of_closed h]; rfl
  | cons event events ih =>
    obtain ⟨hreader, hw⟩ := intercept_of_closed rule sink h event w
    rw [readThrough_cons]
    dsimp only
    rw [hreader, hw, ih, ite_self]

/-- As long as more is wanted, the reader stays open, and no event closes the source. -/
theorem open_of_wantsMore {left : Reader P C} {events : List ReadEvent} {wanted : List Intercept} {w' : W}
    (h : reader.closed = false) (hdirect : reader.interceptAll rule sink events w = ((wanted, left), w'))
    (hwanted : ∀ flags ∈ wanted, flags.wantsMore = true) :
    left.closed = false ∧ ∀ event ∈ events, event.closes = false := by
  induction events generalizing reader wanted w with
  | nil =>
    cases hdirect
    exact ⟨h, nofun⟩
  | cons event events ih =>
    rcases hrest : (reader.intercept rule sink event w).1.2.interceptAll rule sink events
      (reader.intercept rule sink event w).2 with ⟨⟨more, last⟩, w₁⟩
    rw [interceptAll_cons] at hdirect
    dsimp only at hdirect
    rw [hrest] at hdirect
    cases hdirect
    obtain ⟨hfirst, hmore⟩ := List.forall_mem_cons.1 hwanted
    have hgoes := closes_eq_false_of_wantsMore hfirst
    obtain ⟨hopen, hevents⟩ := ih ((closed_intercept h event w).trans hgoes) hrest hmore
    exact ⟨hopen, List.forall_mem_cons.2 ⟨hgoes, hevents⟩⟩

variable (rule sink) in
/-- Reading through may stop and go on before any event that closes the source. -/
theorem readThrough_append (reader : Reader P C) {more : List ReadEvent}
    (h : ∀ event ∈ more, event.closes = false) (rest : List ReadEvent) (w : W) :
    reader.readThrough rule sink (more ++ rest) w =
      let step := reader.interceptAll rule sink more w
      step.1.2.readThrough rule sink rest step.2 := by
  induction more generalizing reader w with
  | nil => rfl
  | cons event more ih =>
    obtain ⟨hgoes, hmore⟩ := List.forall_mem_cons.1 h
    rw [List.cons_append, readThrough_cons]
    dsimp only
    rw [if_neg (by simp [hgoes]), ih _ hmore]
    rfl

end Reader

/-! ### The end of a unit -/

namespace QueuedReader

variable {W P C : Type} (rule : CompletionRule W P) (sink : Sink W C)

/-- What waiting for the end of a unit comes to when nobody adds any events. -/
inductive TakesUnit (reader : Reader P C) (events : List ReadEvent) (w : W) :
    NextUnit → QueuedReader P C → W → Prop
  /-- A closed reader takes nothing. -/
  | closed (hclosed : reader.closed = true) :
    TakesUnit reader events w .closed ⟨reader, events, false⟩ w
  /-- The events are taken up to the first one whose flags do not want more. -/
  | ended {more : List ReadEvent} {last : ReadEvent} {rest : List ReadEvent} {wanted : List Intercept}
    {flags : Intercept} {middle left : Reader P C} {w₁ w' : W} (hopen : reader.closed = false)
    (hevents : events = more ++ last :: rest)
    (hdirect : reader.interceptAll rule sink more w = ((wanted, middle), w₁))
    (hwanted : ∀ flags ∈ wanted, flags.wantsMore = true)
    (hlast : middle.intercept rule sink last w₁ = ((flags, left), w'))
    (hflags : flags.wantsMore = false) :
    TakesUnit reader events w (.ended flags) ⟨left, rest, false⟩ w'
  /-- There is no such event: all are taken, and then the source is closed. -/
  | ranOut {wanted : List Intercept} {middle left : Reader P C} {w₁ w' : W}
    (hopen : reader.closed = false)
    (hdirect : reader.interceptAll rule sink events w = ((wanted, middle), w₁))
    (hwanted : ∀ flags ∈ wanted, flags.wantsMore = true)
    (hclose : middle.markSourceClosed rule w₁ = (left, w')) (hclosed : left.closed = true) :
    TakesUnit reader events w .closed ⟨left, [], false⟩ w'

/-- Waiting for the end of a unit takes an event, and goes on where more is wanted. -/
theorem takeUnit_cons (connected : Bool) (reader : Reader P C) (event : ReadEvent)
    (events : List ReadEvent) (w : W) :
    takeUnit rule sink connected reader (event :: events) w =
      let step := reader.intercept rule sink event w
      if step.1.1.wantsMore then takeUnit rule sink connected step.1.2 events step.2
      else ((.ended step.1.1, ⟨step.1.2, events, connected⟩), step.2) := by
  rcases hstep : reader.intercept rule sink event w with ⟨⟨flags, left⟩, w'⟩
  simp only [takeUnit, bind, StateT.bind, hstep]
  split <;> rfl

variable {rule sink}

/-- Waiting for the end of a unit, for a reader that is open. By induction on the queue, of which every
round takes one event. -/
theorem takesUnit_takeUnit (rule : CompletionRule W P) (sink : Sink W C) {reader : Reader P C}
    (h : reader.closed = false) (events : List ReadEvent) (w : W) :
    let step := takeUnit rule sink false reader events w
    TakesUnit rule sink reader events w step.1.1 step.1.2 step.2 := by
  induction events generalizing reader w with
  | nil =>
    exact .ranOut h rfl (List.forall_mem_nil _) rfl (Reader.closed_markSourceClosed rule reader w)
  | cons event events ih =>
    rw [takeUnit_cons]
    dsimp only
    split
    · next hfirst =>
      have hopen : (reader.intercept rule sink event w).1.2.closed = false :=
        (Reader.closed_intercept h event w).trans (Reader.closes_eq_false_of_wantsMore hfirst)
      -- What the rest of the queue comes to, with one event more in front of it.
      generalize hstep : takeUnit rule sink false _ events _ = step
      have htakes := ih hopen (reader.intercept rule sink event w).2
      rw [hstep] at htakes
      obtain ⟨⟨unit, left⟩, w'⟩ := step
      cases htakes with
      | closed hclosed => exact absurd hclosed (by simp [hopen])
      | @ended more last rest _ _ _ _ _ _ _ hevents hdirect hwanted hlast hflags =>
        have hqueue : event :: events = (event :: more) ++ last :: rest := congrArg (event :: ·) hevents
        refine .ended h hqueue ?_ (List.forall_mem_cons.2 ⟨hfirst, hwanted⟩) hlast hflags
        rw [Reader.interceptAll_cons]
        dsimp only
        rw [hdirect]
      | ranOut _ hdirect hwanted hclose hclosed =>
        refine .ranOut h ?_ (List.forall_mem_cons.2 ⟨hfirst, hwanted⟩) hclose hclosed
        rw [Reader.interceptAll_cons]
        dsimp only
        rw [hdirect]
    · next hlast =>
      have hnone : reader.interceptAll rule sink [] w = (([], reader), w) := rfl
      exact .ended h (List.nil_append _).symm hnone (List.forall_mem_nil _) rfl
        (Bool.eq_false_iff.2 hlast)

theorem nextUnit_of_closed {queued : QueuedReader P C} (h : queued.reader.closed = true) (w : W) :
    queued.nextUnit rule sink w = ((.closed, queued), w) := by
  rw [nextUnit, if_pos h]
  rfl

theorem nextUnit_of_open {queued : QueuedReader P C} (h : queued.reader.closed = false) :
    queued.nextUnit rule sink = takeUnit rule sink queued.connected queued.reader queued.events := by
  rw [nextUnit, if_neg (by simp [h])]

/-- **The end of a unit** is found where the flags do not want more. -/
theorem takesUnit_nextUnit {queued left : QueuedReader P C} {unit : NextUnit} {w w' : W}
    (hqueue : queued.connected = false)
    (hunit : queued.nextUnit rule sink w = ((unit, left), w')) :
    TakesUnit rule sink queued.reader queued.events w unit left w' := by
  obtain ⟨reader, events, connected⟩ := queued
  obtain rfl : connected = false := hqueue
  cases hclosed : reader.closed with
  | true =>
    rw [nextUnit_of_closed hclosed] at hunit
    cases hunit
    exact .closed hclosed
  | false =>
    rw [nextUnit_of_open hclosed] at hunit
    have htakes := takesUnit_takeUnit rule sink hclosed events w
    rwa [hunit] at htakes

/-! ### Draining -/

section Drain

variable {reader : Reader P C} {queued left : QueuedReader P C} {events : List ReadEvent}
  {unit : NextUnit} {w w' : W}

variable (rule sink) in
/-- The loop of a drain, with the end that it comes to: it waits for the end of one unit after another,
until there is none any more or the reader is closed. -/
inductive Drains : QueuedReader P C → W → QueuedReader P C → W → Prop
  | stop {queued left : QueuedReader P C} {unit : NextUnit} {w w' : W}
    (hunit : queued.nextUnit rule sink w = ((unit, left), w'))
    (hstop : unit = .closed ∨ left.reader.closed = true) : Drains queued w left w'
  | again {queued middle left : QueuedReader P C} {flags : Intercept} {w w₁ w' : W}
    (hunit : queued.nextUnit rule sink w = ((.ended flags, middle), w₁))
    (hopen : middle.reader.closed = false) (hdrains : Drains middle w₁ left w') :
    Drains queued w left w'

/-- Reading through goes on where a unit has ended, unless its end was that of the source. -/
theorem TakesUnit.readThrough_of_ended {flags : Intercept}
    (h : TakesUnit rule sink reader events w (.ended flags) left w') :
    reader.closed = false ∧ left.connected = false ∧ left.events.length < events.length ∧
      reader.readThrough rule sink events w =
        (if left.reader.closed then (left.reader, w')
          else left.reader.readThrough rule sink left.events w') ∧
      ReadEvent.afterClosing events =
        if left.reader.closed then left.events else ReadEvent.afterClosing left.events := by
  cases h with
  | @ended more last rest wanted _ middle after w₁ _ hopen hevents hdirect hwanted hlast _ =>
    obtain ⟨hmiddle, hmore⟩ := Reader.open_of_wantsMore hopen hdirect hwanted
    have hclosed : (middle.intercept rule sink last w₁).1.2.closed = last.closes :=
      Reader.closed_intercept hmiddle last w₁
    rw [hlast] at hclosed
    replace hclosed : after.closed = last.closes := hclosed
    dsimp only
    refine ⟨hopen, rfl, ?_, ?_, ?_⟩
    · rw [hevents, List.length_append, List.length_cons]
      omega
    · rw [hevents, Reader.readThrough_append rule sink reader hmore]
      dsimp only
      rw [hdirect]
      dsimp only
      rw [Reader.readThrough_cons]
      dsimp only
      rw [hlast, hclosed]
    · rw [hevents, ReadEvent.afterClosing_append hmore, ReadEvent.afterClosing, hclosed]

/-- Reading through ends where the queue has run out. -/
theorem TakesUnit.readThrough_of_closed (h : TakesUnit rule sink reader events w .closed left w') :
    left.connected = false ∧ reader.readThrough rule sink events w = (left.reader, w') ∧
      left.events = if reader.closed then events else ReadEvent.afterClosing events := by
  cases h with
  | closed hclosed =>
    exact ⟨rfl, Reader.readThrough_of_closed hclosed events w, (if_pos hclosed).symm⟩
  | @ranOut wanted middle after w₁ _ hopen hdirect hwanted hclose _ =>
    obtain ⟨-, hmore⟩ := Reader.open_of_wantsMore hopen hdirect hwanted
    have hread := reader.readThrough_append rule sink hmore [] w
    have hafter := ReadEvent.afterClosing_append hmore []
    rw [List.append_nil] at hread hafter
    refine ⟨rfl, ?_, ?_⟩
    · rw [hread, hdirect]
      exact hclose
    · rw [if_neg (by simp [hopen]), hafter]
      rfl

/-- A drain takes the events that are read through. -/
theorem Drains.readThrough_eq (h : Drains rule sink queued w left w')
    (hqueue : queued.connected = false) :
    left.connected = false ∧
      queued.reader.readThrough rule sink queued.events w = (left.reader, w') ∧
      left.events =
        if queued.reader.closed then queued.events else ReadEvent.afterClosing queued.events := by
  induction h with
  | @stop queued left unit w w' hunit hstop =>
    have htakes := takesUnit_nextUnit hqueue hunit
    cases unit with
    | waiting => cases htakes
    | closed => exact htakes.readThrough_of_closed
    | ended flags =>
      have hclosed : left.reader.closed = true := hstop.resolve_left nofun
      obtain ⟨hopen, hleft, -, hread, hafter⟩ := htakes.readThrough_of_ended
      rw [if_pos hclosed] at hread hafter
      exact ⟨hleft, hread, by rw [if_neg (by simp [hopen]), hafter]⟩
  | again hunit hmiddle _ ih =>
    obtain ⟨hopen, hconnected, -, hread, hafter⟩ :=
      (takesUnit_nextUnit hqueue hunit).readThrough_of_ended
    obtain ⟨hleft, hread', hevents⟩ := ih hconnected
    rw [if_neg (by simp [hmiddle])] at hread hafter hevents
    exact ⟨hleft, hread.trans hread', by rw [if_neg (by simp [hopen]), hafter, hevents]⟩

theorem drainUnits_succ (rule : CompletionRule W P) (sink : Sink W C) (fuel : Nat)
    (queued : QueuedReader P C) (w : W) :
    queued.drainUnits rule sink (fuel + 1) w =
      let step := queued.nextUnit rule sink w
      match step.1.1 with
      | .ended _ =>
        if step.1.2.reader.closed then (step.1.2, step.2)
        else step.1.2.drainUnits rule sink fuel step.2
      | _ => (step.1.2, step.2) := by
  rcases hstep : queued.nextUnit rule sink w with ⟨⟨unit, left⟩, w'⟩
  simp only [drainUnits, bind, StateT.bind, hstep]
  cases unit with
  | ended flags => dsimp only; split <;> rfl
  | closed | waiting => rfl

/-- **The loop of a drain ends.** Every unit takes an event from the queue. -/
theorem drains_drainUnits (rule : CompletionRule W P) (sink : Sink W C) {fuel : Nat}
    (hqueue : queued.connected = false) (hfuel : queued.events.length < fuel) (w : W) :
    Drains rule sink queued w (queued.drainUnits rule sink fuel w).1
      (queued.drainUnits rule sink fuel w).2 := by
  induction fuel generalizing queued w with
  | zero => exact absurd hfuel (Nat.not_lt_zero _)
  | succ fuel ih =>
    rcases hunit : queued.nextUnit rule sink w with ⟨⟨unit, left⟩, w'⟩
    have htakes := takesUnit_nextUnit hqueue hunit
    rw [drainUnits_succ, hunit]
    cases unit with
    | waiting => cases htakes
    | closed => exact .stop hunit (.inl rfl)
    | ended flags =>
      obtain ⟨-, hconnected, hlength, -, -⟩ := htakes.readThrough_of_ended
      cases hclosed : left.reader.closed with
      | true =>
        simp only [hclosed, if_true]
        exact .stop hunit (.inr hclosed)
      | false =>
        simp only [hclosed, Bool.false_eq_true, if_false]
        exact .again hunit hclosed
          (ih hconnected (Nat.lt_of_lt_of_le hlength (Nat.lt_succ_iff.1 hfuel)) w')

end Drain

end QueuedReader

/-! ### One call after another -/

/-- What a queued reader can be asked. -/
inductive QueueCall where
  /-- To wait for the end of a unit. -/
  | nextUnit
  /-- To go on until the source is closed. -/
  | drain

/-- How a queued reader answers. -/
inductive QueueAnswer where
  /-- What waiting for the end of a unit came to. -/
  | unit (unit : NextUnit)
  /-- The source is closed, and so many messages were handed over. -/
  | drained (messages : Nat)

/-- The record of a call to a queued reader. -/
structure QueueTurn (W P C : Type) where
  /-- The call. -/
  call : QueueCall
  /-- The queued reader as the call found it. -/
  found : QueuedReader P C
  /-- The state in which it began. -/
  start : W
  /-- The answer. -/
  answer : QueueAnswer
  /-- The queued reader as the call left it. -/
  left : QueuedReader P C
  /-- The state in which it ended. -/
  finish : W

namespace QueuedReader

variable {W P C : Type} (rule : CompletionRule W P) (sink : Sink W C)

/-- Does what is asked. -/
def perform (queued : QueuedReader P C) : QueueCall → StateM W (QueueAnswer × QueuedReader P C)
  | .nextUnit => do
    let (unit, queued) ← queued.nextUnit rule sink
    return (.unit unit, queued)
  | .drain => do
    let (messages, queued) ← queued.drain rule sink
    return (.drained messages, queued)

end QueuedReader

namespace QueueTurn

variable {W P C : Type} (rule : CompletionRule W P) (sink : Sink W C)

/-- The record of a call that finds the queued reader and the state like this. -/
def of (call : QueueCall) (found : QueuedReader P C) (start : W) : QueueTurn W P C :=
  let done := found.perform rule sink call start
  ⟨call, found, start, done.1.1, done.1.2, done.2⟩

/-- The events that the call takes from the queue. -/
def visited (turn : QueueTurn W P C) : List ReadEvent :=
  turn.found.events.take (turn.found.events.length - turn.left.events.length)

/-- What a call comes to, in terms of what the reader does when it is given the events directly. -/
structure Direct (turn : QueueTurn W P C) : Prop where
  /-- Events are taken from the front of the queue. -/
  events : turn.found.events = turn.visited ++ turn.left.events
  connected : turn.left.connected = false
  nextUnit : turn.call = .nextUnit → ∃ unit, turn.answer = .unit unit ∧
    QueuedReader.TakesUnit rule sink turn.found.reader turn.found.events turn.start unit turn.left
      turn.finish
  /-- The loop of a drain ends. -/
  drains : turn.call = .drain → QueuedReader.Drains rule sink turn.found turn.start turn.left turn.finish
  drain : turn.call = .drain →
    turn.found.reader.readThrough rule sink turn.found.events turn.start =
        (turn.left.reader, turn.finish) ∧
      turn.answer = .drained turn.left.reader.completedMessages ∧
      turn.left.events = if turn.found.reader.closed then turn.found.events
        else ReadEvent.afterClosing turn.found.events
  /-- A rule and a sink that note their calls see the same ones in the same order. -/
  noted : turn.call = .drain →
    (turn.found.perform rule.noting sink.noting turn.call (turn.start, [])).2 =
      (turn.found.reader.readThrough rule.noting sink.noting turn.found.events (turn.start, [])).2

end QueueTurn

namespace QueuedReader

open ReadEvent

variable {W P C : Type} {rule : CompletionRule W P} {sink : Sink W C} {reader : Reader P C}
  {queued left : QueuedReader P C} {events : List ReadEvent} {unit : NextUnit} {w w' : W}

theorem TakesUnit.connected (h : TakesUnit rule sink reader events w unit left w') :
    left.connected = false := by
  cases h <;> rfl

/-- What is left on the queue is the end of what was there. -/
theorem TakesUnit.suffix (h : TakesUnit rule sink reader events w unit left w') :
    left.events <:+ events := by
  cases h with
  | closed => exact List.suffix_rfl
  | @ended more last rest _ _ _ _ _ _ _ hevents =>
    exact ⟨more ++ [last], by rw [hevents, List.append_assoc]; rfl⟩
  | ranOut => exact List.nil_suffix

theorem suffix_afterClosing (events : List ReadEvent) : afterClosing events <:+ events :=
  ⟨uptoClosing events, uptoClosing_append_afterClosing events⟩

/-- What is left of the queue is its end. -/
theorem events_eq_of_suffix {turn : QueueTurn W P C} (h : turn.left.events <:+ turn.found.events) :
    turn.found.events = turn.visited ++ turn.left.events := by
  obtain ⟨visited, hvisited⟩ := h
  have hlength : turn.found.events.length - turn.left.events.length = visited.length := by
    rw [← hvisited, List.length_append, Nat.add_sub_cancel]
  rw [QueueTurn.visited, hlength, ← hvisited, List.take_left]

/-- **One call.** -/
theorem direct_of (rule : CompletionRule W P) (sink : Sink W C) (call : QueueCall)
    (hqueue : queued.connected = false) (w : W) :
    (QueueTurn.of rule sink call queued w).Direct rule sink := by
  cases call with
  | nextUnit =>
    have htakes : TakesUnit rule sink queued.reader queued.events w
        (queued.nextUnit rule sink w).1.1 (queued.nextUnit rule sink w).1.2
        (queued.nextUnit rule sink w).2 :=
      takesUnit_nextUnit hqueue rfl
    exact ⟨events_eq_of_suffix htakes.suffix, htakes.connected, fun _ ↦ ⟨_, rfl, htakes⟩, nofun, nofun,
      nofun⟩
  | drain =>
    have hdrains {V : Type} (rule : CompletionRule V P) (sink : Sink V C) (v : V) :=
      drains_drainUnits rule sink hqueue (Nat.lt_succ_self _) v
    obtain ⟨hconnected, hread, hevents⟩ := (hdrains rule sink w).readThrough_eq hqueue
    obtain ⟨-, hnoted, -⟩ := (hdrains rule.noting sink.noting (w, [])).readThrough_eq hqueue
    refine ⟨events_eq_of_suffix ?_, hconnected, nofun, fun _ ↦ hdrains rule sink w,
      fun _ ↦ ⟨hread, rfl, hevents⟩, fun _ ↦ (congrArg Prod.snd hnoted).symm⟩
    show (queued.drainUnits rule sink (queued.events.length + 1) w).1.events <:+ queued.events
    rw [hevents]
    split
    · exact List.suffix_rfl
    · exact suffix_afterClosing _

variable (rule sink)

/-- Makes calls one after another, and records them. What comes next is decided by `prepare`, which may do
anything else before, also to the reader. -/
def turns : QueuedReader P C → List (Reader P C → StateM W (Reader P C × QueueCall)) →
    StateM W (List (QueueTurn W P C))
  | _, [] => pure []
  | queued, prepare :: rest => do
    let (reader, call) ← prepare queued.reader
    let turn := QueueTurn.of rule sink call { queued with reader } (← get)
    set turn.finish
    return turn :: (← turns turn.left rest)

theorem turns_cons (queued : QueuedReader P C)
    (prepare : Reader P C → StateM W (Reader P C × QueueCall))
    (rest : List (Reader P C → StateM W (Reader P C × QueueCall))) (w : W) :
    (queued.turns rule sink (prepare :: rest) w).1 =
      let prepared := prepare queued.reader w
      let turn := QueueTurn.of rule sink prepared.1.2 { queued with reader := prepared.1.1 } prepared.2
      turn :: (turn.left.turns rule sink rest turn.finish).1 :=
  rfl

/-- The calls to a queued reader that had these events on its queue at first. -/
structure WorksOff (events : List ReadEvent) (turns : List (QueueTurn W P C)) : Prop where
  direct : ∀ turn ∈ turns, turn.Direct rule sink
  /-- Every event is visited by one call at most, in the order of the queue, and those that are not visited
  stay on the queue. -/
  visited : turns.flatMap QueueTurn.visited ++
    (turns.getLast?.map fun turn ↦ turn.left.events).getD events = events

/-- The calls from any state of the queue, by induction on them. -/
theorem worksOff_turns_of_connected (hqueue : queued.connected = false)
    (preparations : List (Reader P C → StateM W (Reader P C × QueueCall))) (w : W) :
    WorksOff rule sink queued.events (queued.turns rule sink preparations w).1 := by
  induction preparations generalizing queued w with
  | nil => exact ⟨nofun, rfl⟩
  | cons prepare rest ih =>
    have hfound : ({ queued with reader := (prepare queued.reader w).1.1 } : QueuedReader P C).connected =
      false := hqueue
    have hdirect := direct_of rule sink (prepare queued.reader w).1.2 hfound (prepare queued.reader w).2
    have hevents : (QueueTurn.of rule sink (prepare queued.reader w).1.2
      { queued with reader := (prepare queued.reader w).1.1 } (prepare queued.reader w).2).found.events =
        queued.events := rfl
    rw [turns_cons]
    dsimp only
    generalize QueueTurn.of rule sink (prepare queued.reader w).1.2
      { queued with reader := (prepare queued.reader w).1.1 } (prepare queued.reader w).2 = turn
      at hdirect hevents ⊢
    have hrest := ih hdirect.connected turn.finish
    refine ⟨List.forall_mem_cons.2 ⟨hdirect, hrest.direct⟩, ?_⟩
    rw [← hevents, hdirect.events, List.flatMap_cons, List.append_assoc, List.getLast?_cons]
    congr 1
    have hvisited := hrest.visited
    cases hlast : (turn.left.turns rule sink rest turn.finish).1.getLast? with
    | none => rwa [hlast] at hvisited
    | some last => rwa [hlast] at hvisited

/-- **A queued reader works off its queue.** Let nobody add any events. Whatever the rule and the sink do,
and whatever happens between the calls, each of them leaves the reader as if it had been given the events
that the call takes: those up to the first one whose flags do not want more, or, when draining, those up to
the first one that closes the source. Where there is none the queue runs out, and the source is closed
then. Draining ends, and no event is visited twice or out of order. -/
theorem worksOff_turns (reader : Reader P C) (events : List ReadEvent)
    (preparations : List (Reader P C → StateM W (Reader P C × QueueCall))) (w : W) :
    WorksOff rule sink events
      ((⟨reader, events, false⟩ : QueuedReader P C).turns rule sink preparations w).1 := by
  have hqueue : (⟨reader, events, false⟩ : QueuedReader P C).connected = false := rfl
  exact worksOff_turns_of_connected rule sink hqueue preparations w

end QueuedReader

end Conduit
