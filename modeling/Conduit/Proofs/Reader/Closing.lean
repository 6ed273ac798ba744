import Conduit.Proofs.Reader.Run

/-!
# When a reader is closed

The turns of a reader are the operations on it, one after another. Before each of them anything may
happen elsewhere, and to what the sink has kept. A turn records which calls the reader makes to its rule
and its sink: a rule and a sink that note their calls see exactly those (`perform_noting`).

What a turn comes to is said of its record (`ReaderTurn.Settled`): the flags tell the transport whether
the reader is open and has nothing to report, and a reader that is closed makes no call at all. From the
turn that closes a reader on, nothing happens any more (`Reader.settles_turns`).
-/

namespace Conduit

/-! ### Noting calls -/

section Noting

variable {W P C : Type}

/-- The rule, with a note of every call to it. -/
def CompletionRule.noting (rule : CompletionRule W P) : CompletionRule (W × List ReaderCall) P where
  evaluate state buffer := fun w ↦
    let judged := rule.evaluate state buffer w.1
    (judged.1, judged.2, w.2 ++ [.evaluate buffer])
  reset state := fun w ↦
    let started := rule.reset state w.1
    (started.1, started.2, w.2 ++ [.reset])

/-- The sink, with a note of every call to it. -/
def Sink.noting (sink : Sink W C) : Sink (W × List ReaderCall) C where
  completed taken message := fun w ↦
    let told := sink.completed taken message w.1
    (told.1, told.2, w.2 ++ [.completed message])
  failed taken fault := fun w ↦
    let told := sink.failed taken fault w.1
    (told.1, told.2, w.2 ++ [.failed fault])

end Noting

/-! ### Turns -/

/-- A reader that is closed has collected nothing. -/
def Reader.Emptied {P C : Type} (reader : Reader P C) : Prop :=
  reader.closed = true → reader.bufferedLength = 0

namespace ReaderOp

/-- Whether an operation closes the source. -/
def closes : ReaderOp → Bool
  | .close | .fail _ | .intercept .endOfStream | .intercept (.failed _) => true
  | .fragment _ | .intercept (.fragment _) => false

/-- The failure with which an operation closes the source. -/
def fault? : ReaderOp → Option Fault
  | .fail fault => some fault
  | .intercept (.failed error) => some (Reader.sourceFault error)
  | _ => none

/-- How a closed reader answers. -/
def closedAnswer : ReaderOp → ReaderAnswer
  | .fragment _ => .progress .discarded
  | .intercept _ => .flags .completed
  | .close | .fail _ => .none

end ReaderOp

/-- The record of an operation on a reader. -/
structure ReaderTurn (W P C : Type) where
  /-- The operation. -/
  op : ReaderOp
  /-- The reader as the operation found it. -/
  found : Reader P C
  /-- The state in which it began. -/
  start : W
  /-- The calls to the rule and the sink. -/
  calls : List ReaderCall
  /-- The answer. -/
  answer : ReaderAnswer
  /-- The reader as the operation left it. -/
  left : Reader P C
  /-- The state in which it ended. -/
  finish : W

namespace ReaderTurn

variable {W P C : Type}

/-- The record of an operation that finds the reader and the state like this. -/
def of (rule : CompletionRule W P) (sink : Sink W C) (op : ReaderOp) (found : Reader P C)
    (start : W) : ReaderTurn W P C :=
  let done := found.perform rule sink op start
  ⟨op, found, start, (found.perform rule.noting sink.noting op (start, [])).2.2, done.1.1, done.1.2,
    done.2⟩

/-- What the sink is told. -/
def notices (turn : ReaderTurn W P C) : List ReaderCall :=
  turn.calls.filter ReaderCall.isNotice

/-- Nothing happens: no call is made, and reader and state stay as they are. -/
structure Idle (turn : ReaderTurn W P C) : Prop where
  calls : turn.calls = []
  answer : turn.answer = turn.op.closedAnswer
  left : turn.left = turn.found
  finish : turn.finish = turn.start

/-- The flags that answer a read event. -/
structure Flagged (turn : ReaderTurn W P C) (event : ReadEvent) (flags : Intercept) : Prop where
  answer : turn.answer = .flags flags
  /-- There are three answers. -/
  known : flags = .completed ∨ flags = .incomplete ∨ flags = .incomplete ||| .reset
  /-- More is wanted while the reader is open and has nothing to report. -/
  wantsMore_iff : flags.wantsMore = true ↔ turn.left.closed = false ∧ turn.notices = []
  /-- The transport need not arm itself again after an empty fragment. -/
  unarmed_iff : flags.contains .incomplete = true ∧ flags.contains .reset = false ↔
    event = .fragment [] ∧ turn.found.closed = false

/-- What a turn comes to. -/
structure Settled (turn : ReaderTurn W P C) : Prop where
  flagged : ∀ event, turn.op = .intercept event → ∃ flags, turn.Flagged event flags
  closed_iff : turn.left.closed = true ↔ turn.found.closed = true ∨ turn.op.closes = true
  /-- A failure of the source is reported, once, by an open reader. -/
  reported : ∀ fault, turn.op.fault? = some fault →
    turn.notices = if turn.found.closed then [] else [.failed fault]
  /-- The end of the source is not reported. -/
  unreported : turn.op.closes = true → turn.op.fault? = none → turn.notices = []
  idle : turn.found.closed = true → turn.Idle
  /-- A closed reader has nothing left. -/
  emptied : turn.left.Emptied

end ReaderTurn

namespace Reader

variable {W P C : Type}

/-- Carries out operations one after another, and records them. What comes next is decided by `prepare`,
which may do anything else before, also to what the sink has kept. -/
def turns (rule : CompletionRule W P) (sink : Sink W C) :
    Reader P C → List (Reader P C → StateM W (C × ReaderOp)) → StateM W (List (ReaderTurn W P C))
  | _, [] => pure []
  | reader, prepare :: rest => do
    let (taken, op) ← prepare reader
    let turn := ReaderTurn.of rule sink op { reader with sink := taken } (← get)
    set turn.finish
    return turn :: (← turns rule sink turn.left rest)

theorem turns_cons (rule : CompletionRule W P) (sink : Sink W C) (reader : Reader P C)
    (prepare : Reader P C → StateM W (C × ReaderOp))
    (rest : List (Reader P C → StateM W (C × ReaderOp))) (w : W) :
    (reader.turns rule sink (prepare :: rest) w).1 =
      let prepared := prepare reader w
      let turn := ReaderTurn.of rule sink prepared.1.2 { reader with sink := prepared.1.1 } prepared.2
      turn :: (turn.left.turns rule sink rest turn.finish).1 :=
  rfl

/-! ### One operation -/

section Perform

variable {rule : CompletionRule W P} {sink : Sink W C} {reader : Reader P C}

/-- A closed reader makes no call. -/
theorem perform_of_closed (h : reader.closed = true) (op : ReaderOp) :
    reader.perform rule sink op = pure (op.closedAnswer, reader) := by
  cases op with
  | fragment bytes => rw [perform, onFragment_of_closed h]; rfl
  | close => rw [perform, markSourceClosed_of_closed h]; rfl
  | fail fault => rw [perform, fail_of_closed h]; rfl
  | intercept event =>
    cases event with
    | fragment bytes =>
      rw [perform, intercept, if_neg (by simp [h]), onFragment_of_closed h]
      rfl
    | endOfStream => rw [perform, intercept, markSourceClosed_of_closed h]; rfl
    | failed error => rw [perform, intercept, fail_of_closed h]; rfl

/-- What an open reader does with a fragment. -/
structure Takes (rule : CompletionRule W P) (sink : Sink W C) (reader : Reader P C) (bytes : Bytes)
    (w : W) (progress : ReadProgress) (left : Reader P C) (w' : W) (calls : List ReaderCall) :
    Prop where
  plain : reader.onFragment rule sink bytes w = ((progress, left), w')
  noted : reader.onFragment rule.noting sink.noting bytes (w, []) = ((progress, left), w', calls)
  isOpen : left.closed = false
  /-- More is awaited exactly when there is nothing to report. -/
  awaits_iff : progress = .awaitingMore ↔ calls.filter ReaderCall.isNotice = []

/-- An open reader stays open with a fragment, whatever its rule says of it. -/
theorem exists_takes (rule : CompletionRule W P) (sink : Sink W C) (h : reader.closed = false)
    (bytes : Bytes) (w : W) :
    ∃ progress left w' calls, reader.Takes rule sink bytes w progress left w' calls := by
  by_cases hne : bytes = []
  · subst hne
    exact ⟨.awaitingMore, reader, w, [], by rw [onFragment_nil h]; rfl,
      by rw [onFragment_nil h]; rfl, h, by simp⟩
  · have hplain := onFragment_of_ne_nil rule sink h hne w
    have hnoted := onFragment_of_ne_nil rule.noting sink.noting h hne (w, [])
    rcases hjudged : rule.evaluate reader.rule (reader.buffer.append bytes) w with
      ⟨⟨cause | done, state⟩, w₁⟩
    · -- the rule failed
      simp only [CompletionRule.noting, hjudged] at hplain hnoted
      exact ⟨_, _, _, _, hplain, hnoted, h, by simp [ReaderCall.isNotice]⟩
    · cases done <;> simp only [CompletionRule.noting, hjudged] at hplain hnoted
      · exact ⟨_, _, _, _, hplain, hnoted, h, by simp [ReaderCall.isNotice]⟩
      · exact ⟨_, _, _, _, hplain, hnoted, h, by simp [ReaderCall.isNotice]⟩

/-- Noting the calls changes nothing else. -/
theorem perform_noting (rule : CompletionRule W P) (sink : Sink W C) (reader : Reader P C)
    (op : ReaderOp) (w : W) :
    let noted := reader.perform rule.noting sink.noting op (w, [])
    noted.1 = (reader.perform rule sink op w).1 ∧ noted.2.1 = (reader.perform rule sink op w).2 := by
  cases hclosed : reader.closed with
  | true =>
    rw [perform_of_closed hclosed, perform_of_closed hclosed]
    exact ⟨rfl, rfl⟩
  | false =>
    obtain ⟨connection, state, taken, buffer, closed, count⟩ := reader
    obtain rfl : closed = false := hclosed
    have hfragment : ∀ bytes, ∃ progress left w' calls,
        Takes rule sink ⟨connection, state, taken, buffer, false, count⟩ bytes w progress left w'
          calls :=
      fun bytes ↦ exists_takes rule sink rfl bytes w
    cases op with
    | close | fail => exact ⟨rfl, rfl⟩
    | fragment bytes =>
      obtain ⟨progress, left, w', calls, htakes⟩ := hfragment bytes
      simp only [perform, bind, StateT.bind, htakes.plain, htakes.noted]
      exact ⟨rfl, rfl⟩
    | intercept event =>
      cases event with
      | endOfStream | failed => exact ⟨rfl, rfl⟩
      | fragment bytes =>
        obtain ⟨progress, left, w', calls, htakes⟩ := hfragment bytes
        simp only [perform, bind, StateT.bind, intercept_fragment, htakes.plain, htakes.noted]
        split <;> exact ⟨rfl, rfl⟩

end Perform

end Reader

namespace ReaderTurn

variable {W P C : Type} {rule : CompletionRule W P} {sink : Sink W C} {found : Reader P C}

/-- The calls that are recorded are those that a rule and a sink note that can do so. -/
theorem noted_of (rule : CompletionRule W P) (sink : Sink W C) (op : ReaderOp) (found : Reader P C)
    (w : W) :
    let turn := of rule sink op found w
    turn.found.perform rule.noting sink.noting turn.op (turn.start, []) =
      ((turn.answer, turn.left), turn.finish, turn.calls) := by
  obtain ⟨hanswer, hfinish⟩ := found.perform_noting rule sink op w
  exact Prod.ext hanswer (Prod.ext hfinish rfl)

/-! ### A closed reader -/

/-- On a closed reader nothing is called, and nothing changes. -/
theorem of_closed (h : found.closed = true) (op : ReaderOp) (w : W) :
    of rule sink op found w = ⟨op, found, w, [], op.closedAnswer, found, w⟩ := by
  simp only [of, Reader.perform_of_closed h]
  rfl

theorem settled_of_closed (h : found.closed = true) (hempty : found.Emptied) (op : ReaderOp) (w : W) :
    (of rule sink op found w).Settled := by
  rw [of_closed h]
  refine ⟨fun event hop ↦ ?_, by simp [h], fun fault _ ↦ by simp [notices, h], fun _ _ ↦ rfl,
    fun _ ↦ ⟨rfl, rfl, rfl, rfl⟩, hempty⟩
  obtain rfl : op = .intercept event := hop
  exact ⟨.completed, rfl, Or.inl rfl, by simp [h, Intercept.wantsMore]; decide, by simp [h]; decide⟩

/-! ### An open reader -/

section Open

variable (hopen : found.closed = false) (w : W)
include hopen

/-- A fragment that is given to the reader itself. -/
theorem settled_fragment (bytes : Bytes) : (of rule sink (.fragment bytes) found w).Settled := by
  obtain ⟨progress, left, w', calls, htakes⟩ := Reader.exists_takes rule sink hopen bytes w
  have hof : of rule sink (.fragment bytes) found w =
      ⟨.fragment bytes, found, w, calls, .progress progress, left, w'⟩ := by
    simp only [of, Reader.perform, bind, StateT.bind, htakes.plain, htakes.noted]
    rfl
  rw [hof]
  exact ⟨nofun, by simp [htakes.isOpen, hopen, ReaderOp.closes], nofun, nofun,
    by simp [hopen], by simp [Reader.Emptied, htakes.isOpen]⟩

/-- A fragment of the transport. Without bytes it is not given to the reader at all. -/
theorem settled_interceptFragment (bytes : Bytes) :
    (of rule sink (.intercept (.fragment bytes)) found w).Settled := by
  by_cases hne : bytes = []
  · subst hne
    have hof : of rule sink (.intercept (.fragment [])) found w =
        ⟨.intercept (.fragment []), found, w, [], .flags .incomplete, found, w⟩ := by
      simp only [of, Reader.perform, Reader.intercept, hopen]
      rfl
    rw [hof]
    refine ⟨fun event hop ↦ ?_, by simp [hopen, ReaderOp.closes],
      fun fault hfault ↦ (Option.some_ne_none fault hfault.symm).elim,
      fun hcloses ↦ (Bool.false_ne_true hcloses).elim, by simp [hopen],
      by simp [Reader.Emptied, hopen]⟩
    obtain rfl := ReaderOp.intercept.inj hop
    exact ⟨.incomplete, rfl, Or.inr (Or.inl rfl), iff_of_true rfl ⟨hopen, rfl⟩,
      iff_of_true ⟨rfl, rfl⟩ ⟨rfl, hopen⟩⟩
  · obtain ⟨progress, left, w', calls, htakes⟩ := Reader.exists_takes rule sink hopen bytes w
    have hof : of rule sink (.intercept (.fragment bytes)) found w =
        ⟨.intercept (.fragment bytes), found, w, calls, .flags (Reader.flags progress), left, w'⟩ := by
      have hgiven : ¬(bytes.isEmpty && !found.closed) = true := by simp [hne]
      have hplain := Reader.intercept_fragment rule sink found bytes w
      have hnoted := Reader.intercept_fragment rule.noting sink.noting found bytes (w, [])
      rw [if_neg hgiven, htakes.plain] at hplain
      rw [if_neg hgiven, htakes.noted] at hnoted
      simp only [of, Reader.perform, bind, StateT.bind, hplain, hnoted]
      rfl
    rw [hof]
    refine ⟨fun event hop ↦ ?_, by simp [htakes.isOpen, hopen, ReaderOp.closes],
      fun fault hfault ↦ (Option.some_ne_none fault hfault.symm).elim,
      fun hcloses ↦ (Bool.false_ne_true hcloses).elim, by simp [hopen],
      by simp [Reader.Emptied, htakes.isOpen]⟩
    obtain rfl := ReaderOp.intercept.inj hop
    have hawaits : progress = .awaitingMore ↔ left.closed = false ∧
        notices ⟨.intercept (.fragment bytes), found, w, calls, .flags (Reader.flags progress), left,
          w'⟩ = [] := by
      rw [htakes.awaits_iff]
      exact (and_iff_right htakes.isOpen).symm
    refine ⟨Reader.flags progress, rfl, ?_, ?_, ?_⟩
    · cases progress <;> simp [Reader.flags]
    · rw [← hawaits]
      cases progress <;> decide
    · refine iff_of_false ?_ (by simp [hne])
      cases progress <;> decide

/-- An operation that closes the source, whether or not it reports a failure. -/
theorem settled_closing {op : ReaderOp} (hcloses : op.closes = true)
    (hanswer : (of rule sink op found w).answer = op.closedAnswer)
    (hleft : (of rule sink op found w).left.closed = true)
    (hempty : (of rule sink op found w).left.bufferedLength = 0)
    (hnotices : (of rule sink op found w).notices = (op.fault?.map ReaderCall.failed).toList) :
    (of rule sink op found w).Settled := by
  refine ⟨fun event hop ↦ ?_, iff_of_true hleft (Or.inr hcloses), fun fault hfault ↦ ?_,
    fun _ hfault ↦ ?_, fun h ↦ ?_, fun _ ↦ hempty⟩
  · obtain rfl : op = .intercept event := hop
    refine ⟨.completed, hanswer, Or.inl rfl, iff_of_false (by decide) (by simp [hleft]),
      iff_of_false (by decide) ?_⟩
    rintro ⟨rfl, -⟩
    exact absurd hcloses (by simp [ReaderOp.closes])
  · replace hfault : op.fault? = some fault := hfault
    rw [hnotices, hfault]
    exact (if_neg (by simp [of, hopen])).symm
  · replace hfault : op.fault? = none := hfault
    rw [hnotices, hfault]
    rfl
  · exact absurd h (by simp [of, hopen])

theorem settled_of_open (op : ReaderOp) : (of rule sink op found w).Settled := by
  cases op with
  | fragment bytes => exact settled_fragment hopen w bytes
  | intercept event =>
    cases event with
    | fragment bytes => exact settled_interceptFragment hopen w bytes
    | endOfStream | failed =>
      obtain ⟨connection, state, taken, buffer, closed, count⟩ := found
      obtain rfl : closed = false := hopen
      exact settled_closing rfl w rfl rfl rfl rfl rfl
  | close | fail =>
    obtain ⟨connection, state, taken, buffer, closed, count⟩ := found
    obtain rfl : closed = false := hopen
    exact settled_closing rfl w rfl rfl rfl rfl rfl

end Open

/-- **Every turn is settled.** -/
theorem settled_of (hempty : found.Emptied) (op : ReaderOp) (w : W) :
    (of rule sink op found w).Settled := by
  cases hclosed : found.closed with
  | true => exact settled_of_closed hclosed hempty op w
  | false => exact settled_of_open hclosed w op

end ReaderTurn

namespace Reader

variable {W P C : Type}

/-! ### One turn after another -/

/-- The turns of a reader, and what becomes of it once it is closed. -/
structure Settles (rule : CompletionRule W P) (sink : Sink W C) (turns : List (ReaderTurn W P C)) :
    Prop where
  /-- The calls are those that a rule and a sink get to see which note them. -/
  noted : ∀ turn ∈ turns, turn.found.perform rule.noting sink.noting turn.op (turn.start, []) =
    ((turn.answer, turn.left), turn.finish, turn.calls)
  settled : ∀ turn ∈ turns, turn.Settled
  /-- Nothing happens in the turns after one that leaves the reader closed. -/
  closed : turns.Pairwise fun turn later ↦ turn.left.closed = true →
    later.Idle ∧ later.left.closed = true ∧ later.left.bufferedLength = 0 ∧
      later.left.completedMessages = turn.left.completedMessages

/-- Once a reader is closed, its turns are idle, and all of it but what the sink has kept stays as it
is. -/
theorem idle_turns (rule : CompletionRule W P) (sink : Sink W C) {reader : Reader P C}
    (h : reader.closed = true)
    (preparations : List (Reader P C → StateM W (C × ReaderOp))) (w : W) :
    ∀ turn ∈ (reader.turns rule sink preparations w).1,
      turn.Idle ∧ turn.left.closed = true ∧ turn.left.bufferedLength = reader.bufferedLength ∧
        turn.left.completedMessages = reader.completedMessages := by
  induction preparations generalizing reader w with
  | nil => exact fun turn hmem ↦ absurd hmem List.not_mem_nil
  | cons prepare rest ih =>
    -- What the sink has kept is all that can have changed in between.
    have hfound : { reader with sink := (prepare reader w).1.1 }.closed = true := h
    have hof : ReaderTurn.of rule sink (prepare reader w).1.2 _ (prepare reader w).2 = _ :=
      ReaderTurn.of_closed hfound (prepare reader w).1.2 (prepare reader w).2
    rw [turns_cons]
    dsimp only
    rw [hof]
    exact List.forall_mem_cons.2 ⟨⟨⟨rfl, rfl, rfl, rfl⟩, h, rfl, rfl⟩, ih hfound _⟩

/-- The turns of a reader in any state of a run. -/
theorem settles_turns_of_emptied (rule : CompletionRule W P) (sink : Sink W C) {reader : Reader P C}
    (h : reader.Emptied) (preparations : List (Reader P C → StateM W (C × ReaderOp))) (w : W) :
    Settles rule sink (reader.turns rule sink preparations w).1 := by
  induction preparations generalizing reader w with
  | nil => exact ⟨nofun, nofun, .nil⟩
  | cons prepare rest ih =>
    have hfound : { reader with sink := (prepare reader w).1.1 }.Emptied := h
    have hsettled : (ReaderTurn.of rule sink (prepare reader w).1.2
        { reader with sink := (prepare reader w).1.1 } (prepare reader w).2).Settled :=
      ReaderTurn.settled_of hfound (prepare reader w).1.2 (prepare reader w).2
    have hnoted := ReaderTurn.noted_of rule sink (prepare reader w).1.2
      { reader with sink := (prepare reader w).1.1 } (prepare reader w).2
    rw [turns_cons]
    dsimp only
    generalize ReaderTurn.of rule sink (prepare reader w).1.2
      { reader with sink := (prepare reader w).1.1 } (prepare reader w).2 = turn at hsettled hnoted ⊢
    have hrest := ih hsettled.emptied turn.finish
    refine ⟨List.forall_mem_cons.2 ⟨hnoted, hrest.noted⟩,
      List.forall_mem_cons.2 ⟨hsettled, hrest.settled⟩,
      List.pairwise_cons.2 ⟨fun later hmem hclosed ↦ ?_, hrest.closed⟩⟩
    obtain ⟨hidle, hstays, hlength, hcount⟩ := idle_turns rule sink hclosed rest turn.finish later hmem
    exact ⟨hidle, hstays, hlength.trans (hsettled.emptied hclosed), hcount⟩

/-- **A reader that is closed is silent.** Whatever the rule and the sink do, and whatever happens
between the operations on a reader that was open and empty at first, every turn is settled, and nothing
happens in the turns after one that leaves the reader closed. -/
theorem settles_turns (rule : CompletionRule W P) (sink : Sink W C) (connection : ConnectionId)
    (state : P) (taken : C) (preparations : List (Reader P C → StateM W (C × ReaderOp))) (w : W) :
    Settles rule sink ((fresh connection state taken).turns rule sink preparations w).1 :=
  settles_turns_of_emptied rule sink (fun h ↦ absurd h Bool.false_ne_true) preparations w

end Reader

end Conduit
