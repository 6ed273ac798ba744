import Conduit.Proofs.Reader.Closing
import Conduit.Proofs.Reader.Terminator
import Conduit.Proofs.Reader.Units

/-!
# What a reader forgets

A completion rule may keep a state between its verdicts. A reader tells it to start anew once for every
unit that ends, be it handed over, spoiled, or dropped because the source is closed: after the last verdict
on the unit, and before the sink hears of it (`ReaderTurn.Course`). So the calls of a run are those of its
units one after another (`Divides`), and no two verdicts on one unit have a restart between them.

The main statement is `Reader.restarts_turns`: a reader whose rule goes back to its first state whenever it
starts anew cannot be told from a fresh one after a unit has ended. That rests on one relation between two
readers (`Reader.Peers`), which leaves out what a reader does not look at: what the sink has kept, the
number of messages handed over, and the shared state.
-/

namespace Conduit

/-! ### Rules that start anew -/

namespace CompletionRule

variable {W P : Type}

/-- The states that a rule can get into from a given one. -/
inductive Reaches (rule : CompletionRule W P) (initial : P) : P → Prop
  | start : Reaches rule initial initial
  | evaluate {state : P} (h : Reaches rule initial state) (buffer : Buffer) (w : W) :
      Reaches rule initial (rule.evaluate state buffer w).1.2
  | reset {state : P} (h : Reaches rule initial state) (w : W) :
      Reaches rule initial (rule.reset state w).1

/-- The verdicts of a rule rest on its own state and on what is collected, and starting anew takes it back
to its first state. -/
structure Restores (rule : CompletionRule W P) (initial : P) : Prop where
  evaluate_eq : ∀ state, rule.Reaches initial state → ∀ buffer w w',
    (rule.evaluate state buffer w).1 = (rule.evaluate state buffer w').1
  reset_eq : ∀ state, rule.Reaches initial state → ∀ w, (rule.reset state w).1 = initial

end CompletionRule

/-! ### Units and turns -/

/-- How a unit comes to its end. -/
inductive UnitEnd where
  /-- It is complete. -/
  | completed
  /-- The rule failed. -/
  | spoiled (cause : Fault)
  /-- The source was closed, with a failure to report or without. -/
  | closed (fault? : Option Fault)

namespace UnitEnd

/-- What the sink is told when a unit ends that has collected this. -/
def notices (collected : Buffer) : UnitEnd → List ReaderCall
  | completed => [.completed collected]
  | spoiled cause => [.failed (Reader.ruleFault cause)]
  | closed fault? => (fault?.map ReaderCall.failed).toList

/-- Whether the reader is closed then. -/
def closes : UnitEnd → Bool
  | completed | spoiled _ => false
  | closed _ => true

/-- The number of messages that are handed over then. -/
def messages : UnitEnd → Nat
  | completed => 1
  | spoiled _ | closed _ => 0

/-- What has become of the fragment then. -/
def progress : UnitEnd → ReadProgress
  | completed => .completed
  | spoiled _ | closed _ => .discarded

/-- How a unit ends by a verdict on it. -/
def ofVerdict? : Except Fault Bool → Option UnitEnd
  | .ok true => some completed
  | .ok false => none
  | .error cause => some (spoiled cause)

/-- The rule is told to start anew, and after that the sink hears of the end. -/
def calls (collected : Buffer) (ending? : Option UnitEnd) : List ReaderCall :=
  (ending?.map fun ending ↦ .reset :: ending.notices collected).getD []

end UnitEnd

/-- A unit that has ended, in whichever way. -/
structure ReadUnit where
  /-- The fragments that were taken, in the order of their arrival. -/
  fragments : List Bytes
  /-- How it came to its end. -/
  ending : UnitEnd

/-- The rule is asked after every fragment, and told to start anew after the last verdict. -/
def ReadUnit.calls (unit : ReadUnit) : List ReaderCall :=
  askings unit.fragments ++ .reset :: unit.ending.notices (.ofFragments unit.fragments)

namespace ReaderOp

/-- The fragment that an operation gives to the reader. -/
def given : ReaderOp → Bytes
  | fragment bytes | intercept (.fragment bytes) => bytes
  | _ => []

/-- How an open reader answers if the unit ends like this. -/
def openAnswer (ending? : Option UnitEnd) : ReaderOp → ReaderAnswer
  | fragment _ => .progress (ending?.elim .awaitingMore UnitEnd.progress)
  | intercept (.fragment []) => .flags .incomplete
  | intercept (.fragment _) => .flags (Reader.flags (ending?.elim .awaitingMore UnitEnd.progress))
  | intercept _ => .flags .completed
  | close | fail _ => .none

theorem given_of_closes {op : ReaderOp} (h : op.closes = true) : op.given = [] := by
  rcases op with bytes | (bytes | _ | _) | _ | _
  · contradiction
  · contradiction
  all_goals rfl

end ReaderOp

namespace ReaderTurn

variable {W P C : Type}

/-- What is collected with the fragment of the operation. -/
def collected (turn : ReaderTurn W P C) : Buffer :=
  turn.found.buffer.append turn.op.given

/-- The fragments that are taken: an open reader takes those that are not empty. -/
def taken (turn : ReaderTurn W P C) : List Bytes :=
  if turn.found.closed then [] else [turn.op.given].filter (· ≠ [])

/-- The rule is asked once about every fragment that is taken. -/
def questions (turn : ReaderTurn W P C) : List ReaderCall :=
  turn.taken.map fun _ ↦ .evaluate turn.collected

/-- The state of the rule after it was asked. -/
def asked (rule : CompletionRule W P) (turn : ReaderTurn W P C) : P :=
  if turn.taken = [] then turn.found.rule
  else (rule.evaluate turn.found.rule turn.collected turn.start).1.2

/-- How the unit ends in a turn, if it does: an open reader is closed, or the rule has a verdict on what is
collected. -/
def ending? (rule : CompletionRule W P) (turn : ReaderTurn W P C) : Option UnitEnd :=
  if turn.found.closed then none
  else if turn.op.closes then some (.closed turn.op.fault?)
  else if turn.op.given = [] then none
  else UnitEnd.ofVerdict? (rule.evaluate turn.found.rule turn.collected turn.start).1.1

/-- The course of a turn. -/
structure Course (rule : CompletionRule W P) (turn : ReaderTurn W P C) : Prop where
  /-- First the rule is asked. If the unit ends, the rule is then told to start anew, and after that the
  sink hears of it. -/
  calls : turn.calls = turn.questions ++ UnitEnd.calls turn.collected (turn.ending? rule)
  answer : turn.answer =
    if turn.found.closed then turn.op.closedAnswer else turn.op.openAnswer (turn.ending? rule)
  state : ∃ w, turn.left.rule =
    if (turn.ending? rule).isSome then (rule.reset (turn.asked rule) w).1 else turn.asked rule
  /-- Nothing is left of a unit that has ended. -/
  buffer : turn.left.buffer =
    if (turn.ending? rule).isSome then .empty
    else if turn.found.closed then turn.found.buffer else turn.collected
  closed : turn.left.closed = (turn.found.closed || (turn.ending? rule).any UnitEnd.closes)
  completed : turn.left.completedMessages =
    turn.found.completedMessages + (turn.ending? rule).elim 0 UnitEnd.messages

end ReaderTurn

/-! ### One operation -/

namespace Reader

variable {W P C : Type} (rule : CompletionRule W P) (sink : Sink W C) {reader : Reader P C}

/-- What an open reader does with a fragment shows in its calls. -/
theorem onFragment_noting (h : reader.closed = false) {fragment : Bytes} (hne : fragment ≠ []) (w : W) :
    reader.onFragment rule.noting sink.noting fragment (w, []) =
      let buffer := reader.buffer.append fragment
      let done := reader.onFragment rule sink fragment w
      (done.1, done.2, .evaluate buffer ::
        UnitEnd.calls buffer (UnitEnd.ofVerdict? (rule.evaluate reader.rule buffer w).1.1)) := by
  rw [onFragment_of_ne_nil rule sink h hne, onFragment_of_ne_nil rule.noting sink.noting h hne]
  rcases hjudged : rule.evaluate reader.rule (reader.buffer.append fragment) w with
    ⟨⟨cause | _ | _, state⟩, w'⟩ <;>
  · simp only [CompletionRule.noting, hjudged]
    rfl

/-- Its progress tells how the unit ended. -/
theorem onFragment_progress (h : reader.closed = false) {fragment : Bytes} (hne : fragment ≠ []) (w : W) :
    (reader.onFragment rule sink fragment w).1.1 =
      (UnitEnd.ofVerdict? (rule.evaluate reader.rule (reader.buffer.append fragment) w).1.1).elim
        .awaitingMore UnitEnd.progress := by
  rw [onFragment_of_ne_nil rule sink h hne]
  rcases hjudged : rule.evaluate reader.rule (reader.buffer.append fragment) w with
    ⟨⟨cause | _ | _, state⟩, w'⟩ <;>
  · simp only [hjudged]
    rfl

end Reader

namespace ReaderTurn

variable {W P C : Type} {rule : CompletionRule W P} {sink : Sink W C} {found : Reader P C} {op : ReaderOp}

section Open

variable (h : found.closed = false)
include h

theorem of_given (hne : op.given ≠ []) (w : W) :
    of rule sink op found w =
      let buffer := found.buffer.append op.given
      let ending? := UnitEnd.ofVerdict? (rule.evaluate found.rule buffer w).1.1
      let done := found.onFragment rule sink op.given w
      ⟨op, found, w, .evaluate buffer :: UnitEnd.calls buffer ending?, op.openAnswer ending?, done.1.2,
        done.2⟩ := by
  have hnoting := Reader.onFragment_noting rule sink h hne w
  have hprogress := Reader.onFragment_progress rule sink h hne w
  cases op with
  | close | fail => contradiction
  | fragment bytes =>
    simp only [ReaderOp.given] at hnoting hprogress
    simp only [of, Reader.perform, bind, StateT.bind, hnoting, ReaderOp.given, ReaderOp.openAnswer,
      ← hprogress]
    rfl
  | intercept event =>
    cases event with
    | endOfStream | failed => contradiction
    | fragment bytes =>
      obtain ⟨byte, rest, rfl⟩ := List.exists_cons_of_ne_nil hne
      have hgiven : ¬((byte :: rest).isEmpty && !found.closed) = true := by simp
      simp only [ReaderOp.given] at hnoting hprogress
      simp only [of, Reader.perform, bind, StateT.bind, Reader.intercept_fragment, if_neg hgiven,
        hnoting, ReaderOp.given, ReaderOp.openAnswer, ← hprogress]
      rfl

/-- An empty fragment is not taken. -/
theorem of_empty (hcloses : op.closes = false) (hnil : op.given = []) (w : W) :
    of rule sink op found w = ⟨op, found, w, [], op.openAnswer none, found, w⟩ := by
  rcases op with bytes | (bytes | _ | _) | _ | _
  · obtain rfl : bytes = [] := hnil
    simp only [of, Reader.perform, Reader.onFragment_nil h]
    rfl
  · obtain rfl : bytes = [] := hnil
    simp only [of, Reader.perform, Reader.intercept, h]
    rfl
  all_goals contradiction

theorem of_closing (hcloses : op.closes = true) (w : W) :
    of rule sink op found w =
      let ending := UnitEnd.closed op.fault?
      let state := rule.reset found.rule w
      let told := match op.fault? with
        | some fault => sink.failed found.sink fault state.2
        | none => (found.sink, state.2)
      ⟨op, found, w, UnitEnd.calls (found.buffer.append op.given) ending, op.openAnswer ending,
        { found with rule := state.1, sink := told.1, buffer := .empty, closed := true }, told.2⟩ := by
  obtain ⟨connection, state, taken, buffer, closed, count⟩ := found
  obtain rfl : closed = false := h
  rcases op with bytes | (bytes | _ | _) | _ | _
  · contradiction
  · contradiction
  all_goals rfl

end Open

/-- **Every turn takes its course.** -/
theorem course_of (rule : CompletionRule W P) (sink : Sink W C) (op : ReaderOp) (found : Reader P C)
    (w : W) : (of rule sink op found w).Course rule := by
  cases hclosed : found.closed with
  | true =>
    rw [of_closed hclosed]
    refine ⟨?_, ?_, ⟨w, ?_⟩, ?_, ?_, ?_⟩ <;>
      simp [questions, taken, asked, ending?, UnitEnd.calls, hclosed]
  | false =>
    by_cases hcloses : op.closes = true
    · rw [of_closing hclosed hcloses]
      have hnil := ReaderOp.given_of_closes hcloses
      refine ⟨?_, ?_, ⟨w, ?_⟩, ?_, ?_, ?_⟩ <;>
        simp [questions, taken, asked, ending?, collected, UnitEnd.closes, UnitEnd.messages, hclosed,
          hcloses, hnil]
    · by_cases hnil : op.given = []
      · rw [of_empty hclosed (by simpa using hcloses) hnil]
        refine ⟨?_, ?_, ⟨w, ?_⟩, ?_, ?_, ?_⟩ <;>
          simp [questions, taken, asked, ending?, collected, UnitEnd.calls, hclosed, hcloses, hnil]
      · rw [of_given hclosed hnil, Reader.onFragment_of_ne_nil rule sink hclosed hnil]
        rcases hjudged : rule.evaluate found.rule (found.buffer.append op.given) w with
          ⟨⟨cause | _ | _, state⟩, w'⟩ <;>
        refine ⟨?_, ?_, ⟨w', ?_⟩, ?_, ?_, ?_⟩ <;>
          simp [questions, taken, asked, ending?, collected, UnitEnd.closes, UnitEnd.messages,
            UnitEnd.ofVerdict?, hclosed, hcloses, hnil, hjudged]

end ReaderTurn

/-! ### The units of a run -/

/-- The turns of a reader that has collected `first` already make up these units, and leave `last` to be
collected. -/
structure Divides {W P C : Type} (rule : CompletionRule W P) (first : List Bytes)
    (turns : List (ReaderTurn W P C)) (ended : List ReadUnit) (last : List Bytes) : Prop where
  /-- The calls are those of the units, one unit after another. -/
  calls : askings first ++ turns.flatMap ReaderTurn.calls = ended.flatMap ReadUnit.calls ++ askings last
  /-- Every fragment that is taken belongs to one unit. -/
  fragments : first ++ turns.flatMap ReaderTurn.taken = ended.flatMap ReadUnit.fragments ++ last
  /-- A unit ends in every turn that ends one, and in no other. -/
  endings : turns.filterMap (ReaderTurn.ending? rule) = ended.map ReadUnit.ending

section Units

variable {W P C : Type} {rule : CompletionRule W P} {turn : ReaderTurn W P C} {first : List Bytes}

/-- What is collected is made up of the fragments that are taken. -/
theorem ReaderTurn.ofFragments_taken (hclosed : turn.found.closed = false)
    (hbuffer : turn.found.buffer = .ofFragments first) :
    Buffer.ofFragments (first ++ turn.taken) = turn.collected := by
  rw [taken, if_neg (by simp [hclosed]), collected, hbuffer]
  by_cases hnil : turn.op.given = [] <;> simp [hnil, Buffer.ofFragments_concat]

/-- The questions go on with the unit. -/
theorem ReaderTurn.askings_taken (hbuffer : turn.found.buffer = .ofFragments first) :
    askings (first ++ turn.taken) = askings first ++ turn.questions := by
  rw [taken, questions, taken, collected, hbuffer]
  split
  · simp
  · by_cases hnil : turn.op.given = [] <;> simp [hnil, askings_concat, Buffer.ofFragments_concat]

/-- A turn that ends no unit goes on with it. -/
theorem Divides.cons_going (hcourse : turn.Course rule) (hbuffer : turn.found.buffer = .ofFragments first)
    (hending : turn.ending? rule = none) {rest : List (ReaderTurn W P C)} {ended : List ReadUnit}
    {last : List Bytes} (h : Divides rule (first ++ turn.taken) rest ended last) :
    Divides rule first (turn :: rest) ended last where
  calls := by
    rw [List.flatMap_cons, hcourse.calls, hending, ← h.calls, ReaderTurn.askings_taken hbuffer]
    simp [UnitEnd.calls]
  fragments := by rw [List.flatMap_cons, ← h.fragments, List.append_assoc]
  endings := by rw [List.filterMap_cons_none hending, h.endings]

/-- A turn that ends a unit is followed by the next one. -/
theorem Divides.cons_ending (hcourse : turn.Course rule) (hbuffer : turn.found.buffer = .ofFragments first)
    (hclosed : turn.found.closed = false) {ending : UnitEnd} (hending : turn.ending? rule = some ending)
    {rest : List (ReaderTurn W P C)} {ended : List ReadUnit} {last : List Bytes}
    (h : Divides rule [] rest ended last) :
    Divides rule first (turn :: rest) (⟨first ++ turn.taken, ending⟩ :: ended) last where
  calls := by
    have hcalls : rest.flatMap ReaderTurn.calls = ended.flatMap ReadUnit.calls ++ askings last := h.calls
    rw [List.flatMap_cons, List.flatMap_cons, hcourse.calls, hending, hcalls, ReadUnit.calls,
      ReaderTurn.askings_taken hbuffer, ReaderTurn.ofFragments_taken hclosed hbuffer]
    simp [UnitEnd.calls]
  fragments := by
    have hfragments : rest.flatMap ReaderTurn.taken = ended.flatMap ReadUnit.fragments ++ last :=
      h.fragments
    rw [List.flatMap_cons, List.flatMap_cons, hfragments]
    simp
  endings := by rw [List.filterMap_cons_some hending, h.endings, List.map_cons]

/-- **The turns of a reader are divided into units.** -/
theorem Reader.exists_divides (rule : CompletionRule W P) (sink : Sink W C) (reader : Reader P C)
    (hbuffer : reader.buffer = .ofFragments first)
    (preparations : List (Reader P C → StateM W (C × ReaderOp))) (w : W) :
    ∃ ended last, Divides rule first (reader.turns rule sink preparations w).1 ended last := by
  induction preparations generalizing reader first w with
  | nil => exact ⟨[], first, List.append_nil _, List.append_nil _, rfl⟩
  | cons prepare rest ih =>
    rw [turns_cons]
    dsimp only
    have hcourse := ReaderTurn.course_of rule sink (prepare reader w).1.2
      { reader with sink := (prepare reader w).1.1 } (prepare reader w).2
    have hfound : (ReaderTurn.of rule sink (prepare reader w).1.2
      { reader with sink := (prepare reader w).1.1 } (prepare reader w).2).found.buffer =
        .ofFragments first := hbuffer
    generalize ReaderTurn.of rule sink (prepare reader w).1.2
      { reader with sink := (prepare reader w).1.1 } (prepare reader w).2 = turn at hcourse hfound ⊢
    cases hending : turn.ending? rule with
    | some ending =>
      have hclosed : turn.found.closed = false := by
        by_contra hclosed
        rw [ReaderTurn.ending?, if_pos (by simpa using hclosed)] at hending
        contradiction
      have hleft : turn.left.buffer = .ofFragments [] := by
        rw [hcourse.buffer, hending]
        rfl
      obtain ⟨ended, last, h⟩ := ih turn.left hleft turn.finish
      exact ⟨_, last, h.cons_ending hcourse hfound hclosed hending⟩
    | none =>
      have hgoing : turn.left.buffer = .ofFragments (first ++ turn.taken) := by
        rw [hcourse.buffer, hending]
        cases hclosed : turn.found.closed with
        | true => simp [ReaderTurn.taken, hclosed, hfound]
        | false => simp [ReaderTurn.ofFragments_taken hclosed hfound]
      obtain ⟨ended, last, h⟩ := ih turn.left hgoing turn.finish
      exact ⟨ended, last, h.cons_going hcourse hfound hending⟩

end Units

/-! ### Two readers -/

/-- Two readers do the same from here on if they are asked the same. The messages they have handed over
and what their sinks have kept are left out. -/
structure Reader.Peers {P C D : Type} (reader : Reader P C) (other : Reader P D) : Prop where
  rule : reader.rule = other.rule
  buffer : reader.buffer = other.buffer
  closed : reader.closed = other.closed

section Peers

variable {W P C D : Type} {rule : CompletionRule W P} {initial : P}

/-- Asking the rule does not take it out of the states that it can get into. -/
theorem ReaderTurn.reaches_asked {turn : ReaderTurn W P C}
    (hreaches : rule.Reaches initial turn.found.rule) : rule.Reaches initial (turn.asked rule) := by
  rw [asked]
  split
  · exact hreaches
  · exact hreaches.evaluate _ _

/-- The rule stays within the states that it can get into. -/
theorem ReaderTurn.Course.reaches {turn : ReaderTurn W P C} (h : turn.Course rule)
    (hreaches : rule.Reaches initial turn.found.rule) : rule.Reaches initial turn.left.rule := by
  obtain ⟨w, hstate⟩ := h.state
  rw [hstate]
  split
  · exact (reaches_asked hreaches).reset w
  · exact reaches_asked hreaches

/-- A unit that ends takes the rule back to its first state. -/
theorem ReaderTurn.Course.rule_eq (hrestores : rule.Restores initial) {turn : ReaderTurn W P C}
    (h : turn.Course rule) (hreaches : rule.Reaches initial turn.found.rule) :
    turn.left.rule = if (turn.ending? rule).isSome then initial else turn.asked rule := by
  obtain ⟨w, hstate⟩ := h.state
  rw [hstate, hrestores.reset_eq _ (reaches_asked hreaches)]

/-- **One turn.** The verdict on a unit and what becomes of the rule are the same, whatever else has
happened. -/
theorem ReaderTurn.Course.peers (hrestores : rule.Restores initial) {turn : ReaderTurn W P C}
    {other : ReaderTurn W P D} (h : turn.Course rule) (hother : other.Course rule)
    (hop : turn.op = other.op) (hfound : turn.found.Peers other.found)
    (hreaches : rule.Reaches initial turn.found.rule) :
    turn.calls = other.calls ∧ turn.answer = other.answer ∧
      turn.left.Peers other.left ∧
      ∃ messages, turn.left.completedMessages = turn.found.completedMessages + messages ∧
        other.left.completedMessages = other.found.completedMessages + messages := by
  have hcollected : turn.collected = other.collected := by
    rw [collected, collected, hop, hfound.buffer]
  have htaken : turn.taken = other.taken := by rw [taken, taken, hop, hfound.closed]
  have hverdict : (rule.evaluate turn.found.rule turn.collected turn.start).1 =
      (rule.evaluate other.found.rule other.collected other.start).1 := by
    rw [hcollected, ← hfound.rule]
    exact hrestores.evaluate_eq _ hreaches _ _ _
  have hending : turn.ending? rule = other.ending? rule := by
    rw [ending?, ending?, hop, hfound.closed, hverdict]
  have hasked : turn.asked rule = other.asked rule := by
    rw [asked, asked, hverdict, htaken, hfound.rule]
  refine ⟨?_, ?_, ⟨?_, ?_, ?_⟩, _, h.completed, ?_⟩
  · rw [h.calls, hother.calls, questions, questions, htaken, hcollected, hending]
  · rw [h.answer, hother.answer, hop, hfound.closed, hending]
  · rw [h.rule_eq hrestores hreaches, hother.rule_eq hrestores (hfound.rule ▸ hreaches), hending, hasked]
  · rw [h.buffer, hother.buffer, hending, hfound.closed, hfound.buffer, hcollected]
  · rw [h.closed, hother.closed, hfound.closed, hending]
  · rw [hother.completed, hending]

/-- A turn cannot be told from another one, except that so many messages were handed over earlier. -/
structure ReaderTurn.Repeats (earlier : Nat) (turn : ReaderTurn W P C) (other : ReaderTurn W P D) :
    Prop where
  answer : turn.answer = other.answer
  calls : turn.calls = other.calls
  buffered : turn.left.bufferedLength = other.left.bufferedLength
  completed : turn.left.completedMessages = earlier + other.left.completedMessages

/-- **A run.** Two readers that do the same from here on cannot be told apart by any runs in which they
are asked the same, whatever their sinks do and whatever happens in between. -/
theorem Reader.Peers.turns (hrestores : rule.Restores initial) (sink : Sink W C) (sink' : Sink W D)
    {reader : Reader P C} {other : Reader P D} (hpeers : reader.Peers other)
    (hreaches : rule.Reaches initial reader.rule) {earlier : Nat}
    (hcount : reader.completedMessages = earlier + other.completedMessages)
    (preparations : List (Reader P C → StateM W (C × ReaderOp)))
    (preparations' : List (Reader P D → StateM W (D × ReaderOp))) (w w' : W)
    (hops : (reader.turns rule sink preparations w).1.map ReaderTurn.op =
      (other.turns rule sink' preparations' w').1.map ReaderTurn.op) :
    List.Forall₂ (ReaderTurn.Repeats earlier) (reader.turns rule sink preparations w).1
      (other.turns rule sink' preparations' w').1 := by
  induction preparations generalizing reader other preparations' w w' with
  | nil =>
    cases preparations' with
    | nil => exact .nil
    | cons => contradiction
  | cons prepare rest ih =>
    cases preparations' with
    | nil => contradiction
    | cons prepare' rest' =>
      rw [turns_cons, turns_cons] at hops ⊢
      obtain ⟨hop, hops⟩ := List.cons.inj hops
      -- What the sinks have kept is all that can have changed in between.
      have hfound : { reader with sink := (prepare reader w).1.1 }.Peers
          { other with sink := (prepare' other w').1.1 } := ⟨hpeers.rule, hpeers.buffer, hpeers.closed⟩
      have hcourse := ReaderTurn.course_of rule sink (prepare reader w).1.2
        { reader with sink := (prepare reader w).1.1 } (prepare reader w).2
      obtain ⟨hcalls, hanswer, hleft, messages, hcompleted, hcompleted'⟩ := hcourse.peers hrestores
        (ReaderTurn.course_of rule sink' (prepare' other w').1.2 _ (prepare' other w').2) hop hfound
        hreaches
      have hcount : _ = earlier + _ := calc
        _ = reader.completedMessages + messages := hcompleted
        _ = earlier + (other.completedMessages + messages) := by omega
        _ = earlier + _ := congrArg _ hcompleted'.symm
      exact .cons ⟨hanswer, hcalls, congrArg Buffer.length hleft.buffer, hcount⟩
        (ih hleft (hcourse.reaches hreaches) hcount rest' _ _ hops)

end Peers

namespace Reader

variable {W P C : Type} {rule : CompletionRule W P} {initial : P}

/-- What comes after a turn that ends a unit is a run of the reader that it left, with the rule in its
first state. -/
theorem exists_turns_of_ending (hrestores : rule.Restores initial) (sink : Sink W C)
    {reader : Reader P C} (hreaches : rule.Reaches initial reader.rule)
    (preparations : List (Reader P C → StateM W (C × ReaderOp))) (w : W)
    {before rest : List (ReaderTurn W P C)} {turn : ReaderTurn W P C}
    (h : (reader.turns rule sink preparations w).1 = before ++ turn :: rest)
    (hending : (turn.ending? rule).isSome) :
    turn.left.rule = initial ∧ turn.left.buffer = .empty ∧
      ∃ later w', rest = (turn.left.turns rule sink later w').1 := by
  induction preparations generalizing reader w before with
  | nil =>
    have hnone : [] = before ++ turn :: rest := h
    simp at hnone
  | cons prepare others ih =>
    rw [turns_cons] at h
    have hcourse := ReaderTurn.course_of rule sink (prepare reader w).1.2
      { reader with sink := (prepare reader w).1.1 } (prepare reader w).2
    cases before with
    | nil =>
      obtain ⟨rfl, rfl⟩ := List.cons.inj h
      refine ⟨?_, ?_, others, _, rfl⟩
      · rw [hcourse.rule_eq hrestores hreaches, if_pos hending]
      · rw [hcourse.buffer, if_pos hending]
    | cons first before =>
      obtain ⟨-, h⟩ := List.cons.inj h
      exact ih (hcourse.reaches hreaches) _ h

/-- Every turn goes its course, by induction on the turns. -/
theorem course_of_mem_turns (rule : CompletionRule W P) (sink : Sink W C) (reader : Reader P C)
    (preparations : List (Reader P C → StateM W (C × ReaderOp))) (w : W) :
    ∀ turn ∈ (reader.turns rule sink preparations w).1, turn.Course rule := by
  induction preparations generalizing reader w with
  | nil => exact fun turn hmem ↦ absurd hmem List.not_mem_nil
  | cons prepare rest ih =>
    rw [turns_cons]
    exact List.forall_mem_cons.2 ⟨ReaderTurn.course_of rule sink _ _ _, ih _ _⟩

/-- The turns of a reader whose rule starts anew with every unit. -/
structure Restarts (rule : CompletionRule W P) (sink : Sink W C) (initial : P)
    (turns : List (ReaderTurn W P C)) : Prop where
  /-- The calls are those that a rule and a sink get to see which note them. -/
  noted : ∀ turn ∈ turns, turn.found.perform rule.noting sink.noting turn.op (turn.start, []) =
    ((turn.answer, turn.left), turn.finish, turn.calls)
  course : ∀ turn ∈ turns, turn.Course rule
  /-- The calls are those of the units one after another: the rule is told to start anew once for every
  unit, after all the verdicts on it and before the sink hears of its end. -/
  units : ∃ ended last, Divides rule [] turns ended last
  /-- What comes after a unit that leaves the reader open cannot be told from the turns of a fresh reader
  that is asked the same. -/
  afresh : ∀ before turn rest, turns = before ++ turn :: rest → (turn.ending? rule).isSome →
    turn.left.closed = false →
    ∀ (D : Type) (sink' : Sink W D) (connection : ConnectionId) (taken : D)
      (preparations : List (Reader P D → StateM W (D × ReaderOp))) (w : W),
      let anew := ((fresh connection initial taken).turns rule sink' preparations w).1
      rest.map ReaderTurn.op = anew.map ReaderTurn.op →
      List.Forall₂ (ReaderTurn.Repeats turn.left.completedMessages) rest anew

/-- **A reader forgets a unit when it ends.** Let the rule go back to its first state whenever it starts
anew. Whatever the sink does, and whatever happens between the operations on a fresh reader, the rule is
told to start anew exactly once for each unit that is handed over or dropped, before the sink hears of it
and not between two verdicts on the unit. From the end of a unit on, the reader answers like a fresh one,
makes the same calls and collects as much, as long as it is asked the same, and its count of messages
differs by what it was at that time. -/
theorem restarts_turns (hrestores : rule.Restores initial) (sink : Sink W C) (connection : ConnectionId)
    (taken : C) (preparations : List (Reader P C → StateM W (C × ReaderOp))) (w : W) :
    Restarts rule sink initial ((fresh connection initial taken).turns rule sink preparations w).1 where
  noted := (settles_turns_of_emptied rule sink (fun h ↦ absurd h Bool.false_ne_true) preparations w).noted
  course := course_of_mem_turns rule sink _ preparations w
  units := exists_divides rule sink _ rfl preparations w
  afresh := by
    intro before turn rest hturns hending hopen D sink' connection' taken' preparations' w' anew hops
    obtain ⟨hrule, hbuffer, later, w'', rfl⟩ :=
      exists_turns_of_ending hrestores sink .start preparations w hturns hending
    have hpeers : turn.left.Peers (fresh connection' initial taken' : Reader P D) :=
      ⟨hrule, hbuffer, hopen⟩
    have hreaches : rule.Reaches initial turn.left.rule := hrule ▸ .start
    exact hpeers.turns hrestores sink sink' hreaches rfl later preparations' w'' w' hops

end Reader

/-- A terminator forgets what it has searched, and keeps the sequence. -/
theorem Terminator.restores {W : Type} (sequence : Bytes) :
    (rule : CompletionRule W Terminator).Restores ⟨sequence, 0⟩ where
  evaluate_eq _ _ _ _ _ := rfl
  reset_eq state hreaches w := by
    have hsequence : state.sequence = sequence := by
      induction hreaches with
      | start => rfl
      | evaluate _ buffer _ ih => exact (evaluate_sequence _ buffer).trans ih
      | reset _ _ ih => exact ih
    rw [← hsequence]
    rfl

/-- Of three fragments the second one ends a line, and the third is read as by a fresh reader. -/
theorem Reader.restarts_turns_lines :
    let rule : CompletionRule Unit Terminator := Terminator.rule
    let sink : Sink Unit Unit := ⟨fun taken _ ↦ pure taken, fun taken _ ↦ pure taken⟩
    let turns := ((fresh ⟨1⟩ ⟨[13, 10], 0⟩ ()).turns rule sink
      ([[97, 13], [10], [10]].map fun bytes _ ↦ pure ((), .fragment bytes)) ()).1
    rule.Restores ⟨[13, 10], 0⟩ ∧ Restarts rule sink ⟨[13, 10], 0⟩ turns ∧
      turns.map (fun turn ↦ (turn.ending? rule).isSome) = [false, true, false] ∧
      turns.map (fun turn ↦ turn.left.closed) = [false, false, false] ∧
      turns.map (fun turn ↦ turn.left.completedMessages) = [0, 1, 1] :=
  ⟨Terminator.restores _, restarts_turns (Terminator.restores _) _ _ _ _ _, by decide, by decide,
    by decide⟩

end Conduit
