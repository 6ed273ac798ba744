import Conduit.Proofs.Connection.Feed

/-!
# The account of a feed

The notes of a run account for the operations (`FeedAccount`). What the rule said cuts the fragments that
arrived into units (`Cut.ofRulings`), the messages are the complete units, and the failures that were
reported are those of the notes, in their order. Each message was run through the chain, in a pass that
began with its read event (`Connection.Deals`). A failure can be followed down to where it comes from
(`FeedNote.Caused`): to a stage, to the rule or to the transport, with everything that is below it.
-/

namespace Conduit

/-! ### What arrives, and how it is cut -/

namespace FeedOp

variable {W : Type}

/-- The fragments that a reader takes: those that are not empty, until its source is closed. -/
def arrivals : List (FeedOp W) → List Bytes
  | [] => []
  | .read (.fragment bytes) :: ops => if bytes = [] then arrivals ops else bytes :: arrivals ops
  | .read _ :: _ => []
  | _ :: ops => arrivals ops

/-- The failure that closes the source, if one does. -/
def broken? : List (FeedOp W) → Option TransportError
  | [] => none
  | .read (.fragment _) :: ops => broken? ops
  | .read .endOfStream :: _ => none
  | .read (.failed error) :: _ => some error
  | _ :: ops => broken? ops

end FeedOp

/-- A fragment, and what the rule said once it had arrived. -/
abbrev Ruling := Bytes × Except Fault Bool

/-- What the rule is asked about, when the given fragments are open. -/
def Ruling.asked : List Bytes → List Ruling → List (Buffer × Except Fault Bool)
  | _, [] => []
  | pending, (fragment, verdict) :: rulings =>
    (.ofFragments (pending ++ [fragment]), verdict) ::
      asked (if verdict = .ok false then pending ++ [fragment] else []) rulings

namespace Cut

/-- The cut that follows from what the rule said, when the given fragments are open. -/
def ofRulings : List Bytes → List Ruling → Cut
  | pending, [] => ⟨[], pending⟩
  | pending, (fragment, .ok false) :: rulings => ofRulings (pending ++ [fragment]) rulings
  | pending, (fragment, .ok true) :: rulings =>
    let cut := ofRulings [] rulings
    ⟨⟨pending ++ [fragment], none⟩ :: cut.ended, cut.last⟩
  | pending, (fragment, .error cause) :: rulings =>
    let cut := ofRulings [] rulings
    ⟨⟨pending ++ [fragment], some cause⟩ :: cut.ended, cut.last⟩

/-- The messages of the units that are complete. -/
def messages (cut : Cut) : List Buffer :=
  (cut.ended.filter fun u ↦ u.failure.isNone).map fun u ↦ .ofFragments u.fragments

/-- No fragment is lost, and none is added. -/
theorem fragments_ofRulings (pending : List Bytes) (rulings : List Ruling) :
    (ofRulings pending rulings).ended.flatMap EndedUnit.fragments ++
      (ofRulings pending rulings).last = pending ++ rulings.map Prod.fst := by
  induction rulings generalizing pending with
  | nil => simp [ofRulings]
  | cons ruling rulings ih =>
    obtain ⟨fragment, cause | - | -⟩ := ruling <;> simp [ofRulings, ih]

end Cut

/-! ### Where failures come from -/

namespace FeedNote

variable {W S : Type}

/-- Where a failure comes from, with everything that is below it. -/
inductive Caused : FeedNote W S → Fault → Prop where
  /-- A stage failed. -/
  | stage {before : W} {message : Buffer} {visits : List (StageVisit W S)} {answer : Connection.Answer}
      {visit : StageVisit W S} {cause fault : Fault} (hlast : visits.getLast? = some visit)
      (hanswer : visit.answer = .ok (.error cause)) (hcode : fault.code = Fault.Code.chainStageFailed)
      (hcauses : fault.causes = .fault cause.code cause.message :: cause.causes) :
      Caused (.dispatched before message visits answer) fault
  /-- A stage panicked. -/
  | panic {before : W} {message : Buffer} {visits : List (StageVisit W S)} {answer : Connection.Answer}
      {visit : StageVisit W S} {panic : Panic} {fault : Fault} (hlast : visits.getLast? = some visit)
      (hanswer : visit.answer = .error panic) (hcode : fault.code = Fault.Code.chainStagePanicked) :
      Caused (.dispatched before message visits answer) fault
  /-- A stage asked too often to be run again. -/
  | reruns {before : W} {message : Buffer} {visits : List (StageVisit W S)} {answer : Connection.Answer}
      {visit : StageVisit W S} {fault : Fault} (hlast : visits.getLast? = some visit)
      (hanswer : visit.answer = .ok (.ok .rerun)) (hcode : fault.code = Fault.Code.chainRerunLimit) :
      Caused (.dispatched before message visits answer) fault
  /-- The rule failed. -/
  | rule {buffer : Buffer} {cause fault : Fault}
      (hcode : fault.code = Fault.Code.readerPredicateFailed)
      (hcauses : fault.causes = .fault cause.code cause.message :: cause.causes) :
      Caused (.judged buffer (.error cause)) fault
  /-- The transport failed. -/
  | source {error : TransportError} {fault : Fault}
      (hcode : fault.code = Fault.Code.readerSourceFailed)
      (hcauses : fault.causes = [.transport error]) : Caused (.broken error) fault

/-- What can be relied on in a note. -/
structure Genuine (host : ConnectionHost W S) (cell : Cell W Connection) (note : FeedNote W S) :
    Prop where
  /-- A message is dealt with in a pass that begins with the read event of the message. -/
  dealt : ∀ before message visits answer, note = .dispatched before message visits answer →
    (cell.read before).Deals host (.read message) before visits answer
  /-- The first stage that is visited is shown the message. -/
  shown : ∀ message, note.message? = some message → ∀ visit, note.visits.head? = some visit →
    visit.view.event = .read message
  /-- Whatever is reported comes from somewhere. -/
  caused : ∀ fault, note.fault? = some fault → note.Caused fault
  /-- Whatever a stage fails with is reported, with everything that is below it. -/
  reported : ∀ visit ∈ note.visits, ∀ cause, visit.answer = .ok (.error cause) →
    ∃ fault, note.fault? = some fault ∧ fault.code = Fault.Code.chainStageFailed ∧
      fault.causes = .fault cause.code cause.message :: cause.causes

/-- A failure follows from what the last stage answered. -/
theorem caused_of_failsWith {before : W} {message : Buffer} {visits : List (StageVisit W S)}
    {answer : Connection.Answer} {visit : StageVisit W S} {limit reruns : Nat} {fault : Fault}
    (hlast : visits.getLast? = some visit) (h : FailsWith limit reruns visit.answer fault) :
    (dispatched before message visits answer).Caused fault := by
  generalize hanswer : visit.answer = answered at h
  cases h with
  | fault cause => exact .stage hlast hanswer rfl rfl
  | panic panic => exact .panic hlast hanswer rfl
  | rerun _ => exact .reruns hlast hanswer rfl

/-- A fault that is noted of a message is the answer to it. -/
theorem eq_of_fault?_dispatched {before : W} {message : Buffer} {visits : List (StageVisit W S)}
    {answer : Connection.Answer} {fault : Fault}
    (h : (dispatched before message visits answer).fault? = some fault) :
    answer = .ok (.error fault) := by
  rcases answer with panic | cause | directive
  · cases h
  · rw [Option.some.inj h]
  · cases h

/-- The note of a message that was dealt with in a pass can be relied on. -/
theorem genuine_dispatched {host : ConnectionHost W S} {cell : Cell W Connection} {before : W}
    {message : Buffer} {visits : List (StageVisit W S)} {answer : Connection.Answer}
    (h : (cell.read before).Deals host (.read message) before visits answer) :
    (dispatched before message visits answer).Genuine host cell where
  dealt := by
    rintro _ _ _ _ ⟨⟩
    exact h
  shown := by
    rintro _ ⟨⟩ visit hhead
    exact (h.of_head hhead).1
  caused fault hfault := by
    obtain ⟨-, -, -, htour, rfl⟩ := h
    obtain ⟨failure, rfl, rfl⟩ := Connection.answered_eq_error_iff.1 (eq_of_fault?_dispatched hfault)
    rcases hlast : visits.getLast? with - | visit
    · -- A pass without visits does not fail.
      obtain rfl := List.getLast?_eq_none_iff.1 hlast
      exact absurd htour.of_nil.1 nofun
    · obtain ⟨reruns, hfails⟩ := (htour.of_getLast hlast).closed.fails rfl
      exact caused_of_failsWith hlast hfails
  reported visit hmem cause herror := by
    obtain ⟨-, -, -, htour, rfl⟩ := h
    have hlast := htour.getLast?_of_stops hmem (by simp [herror]) (by simp [herror])
    obtain ⟨failure, rfl, hfault⟩ := (htour.of_getLast hlast).closed.of_error herror
    exact ⟨failure.fault, rfl, hfault ▸ rfl, hfault ▸ rfl⟩

/-- What the rule says is caused by the rule, and by no stage. -/
theorem genuine_judged (host : ConnectionHost W S) (cell : Cell W Connection) (buffer : Buffer)
    (verdict : Except Fault Bool) : (judged buffer verdict : FeedNote W S).Genuine host cell where
  dealt _ _ _ _ := nofun
  shown _ := nofun
  caused fault hfault := by
    cases verdict with
    | error cause =>
      obtain rfl := Option.some.inj hfault
      exact .rule rfl rfl
    | ok done => cases hfault
  reported visit hmem := absurd hmem List.not_mem_nil

/-- A failure of the source is caused by the source. -/
theorem genuine_broken (host : ConnectionHost W S) (cell : Cell W Connection)
    (error : TransportError) : (broken error : FeedNote W S).Genuine host cell where
  dealt _ _ _ _ := nofun
  shown _ := nofun
  caused fault hfault := by
    obtain rfl := Option.some.inj hfault
    exact .source rfl rfl
  reported visit hmem := absurd hmem List.not_mem_nil

end FeedNote

namespace FeedCall

variable {W S P : Type}

/-- **Every call makes genuine notes**. -/
theorem genuine_make (host : ConnectionHost W S) (cell : Cell W Connection)
    (rule : CompletionRule W P) (call : FeedCall W) (state : P) (w : W) :
    ∀ note ∈ (call.make host cell rule state w).1.1, note.Genuine host cell := by
  intro note hmem
  cases call with
  | judge buffer =>
    obtain rfl := List.mem_singleton.1 hmem
    exact FeedNote.genuine_judged host cell buffer _
  | reset => exact absurd hmem List.not_mem_nil
  | dispatch message =>
    obtain rfl := List.mem_singleton.1 hmem
    -- The visits are noted by another host; they are those of the tour that the pass makes.
    have hvisits : visitsOf host cell message w =
        (cell.read w).visitsOfDispatch host (.read message) w :=
      (Connection.notes_dispatch host (cell.read w) (.read message)).eq w
    have hdeals := (cell.read w).deals_dispatch host (.read message) w
    rw [← hvisits] at hdeals
    exact FeedNote.genuine_dispatched hdeals
  | broken error =>
    obtain rfl := List.mem_singleton.1 hmem
    exact FeedNote.genuine_broken host cell error
  | elsewhere change => exact absurd hmem List.not_mem_nil

/-- So do calls one after another. -/
theorem genuine_play (host : ConnectionHost W S) (cell : Cell W Connection)
    (rule : CompletionRule W P) (calls : List (FeedCall W)) (state : P) (w : W) :
    ∀ note ∈ (play host cell rule calls state w).1.1, note.Genuine host cell := by
  induction calls generalizing state w with
  | nil => exact fun note hmem ↦ absurd hmem List.not_mem_nil
  | cons call calls ih =>
    intro note hmem
    rw [play_cons] at hmem
    rcases List.mem_append.1 hmem with hmem | hmem
    · exact call.genuine_make host cell rule state w note hmem
    · exact ih _ _ note hmem

end FeedCall

/-! ### What the notes of a run are -/

variable {W S P : Type}

/-- The notes of operations, when the given fragments are open, in terms of what arrives and of what
the rule says each time. -/
structure FeedLog (pending : List Bytes) (ops : List (FeedOp W)) (verdicts : List (Except Fault Bool))
    (notes : List (FeedNote W S)) : Prop where
  /-- The rule speaks once for each fragment that arrives. -/
  ruled : verdicts.length = (FeedOp.arrivals ops).length
  /-- It is asked about the open fragments and the new one. -/
  asked : notes.filterMap FeedNote.judgement? =
    Ruling.asked pending ((FeedOp.arrivals ops).zip verdicts)
  /-- The messages are the complete units. -/
  dispatched : notes.filterMap FeedNote.message? =
    (Cut.ofRulings pending ((FeedOp.arrivals ops).zip verdicts)).messages
  /-- The failure of the source is noted if it closes the source. -/
  broken : notes.filterMap FeedNote.broken? = (FeedOp.broken? ops).toList

/-- Nothing is noted once the source is closed. -/
theorem FeedSteps.of_closed {ops : List (FeedOp W)} {calls : List (FeedCall W)}
    {notes : List (FeedNote W S)} (h : FeedSteps none ops calls notes) : notes = [] := by
  generalize hclosed : (none : Option (List Bytes)) = pending at h
  induction h with
  | nil => rfl
  | cons step steps ih =>
    subst hclosed
    cases step <;> exact ih rfl

/-- A fragment arrives, and the rule speaks. -/
theorem FeedLog.fragment {pending : List Bytes} {bytes : Bytes} {ops : List (FeedOp W)}
    {verdict : Except Fault Bool} {verdicts : List (Except Fault Bool)}
    {notes rest : List (FeedNote W S)} (hne : bytes ≠ [])
    (h : FeedLog (if verdict = .ok false then pending ++ [bytes] else []) ops verdicts rest)
    (hasked : notes.filterMap FeedNote.judgement? = [(.ofFragments (pending ++ [bytes]), verdict)])
    (hmessage : notes.filterMap FeedNote.message? =
      if verdict = .ok true then [.ofFragments (pending ++ [bytes])] else [])
    (hbroken : notes.filterMap FeedNote.broken? = []) :
    FeedLog pending (.read (.fragment bytes) :: ops) (verdict :: verdicts) (notes ++ rest) := by
  have harrivals : FeedOp.arrivals (.read (.fragment bytes) :: ops) =
      bytes :: FeedOp.arrivals ops := if_neg hne
  constructor
  · rw [harrivals, List.length_cons, List.length_cons, h.ruled]
  · rw [harrivals, List.filterMap_append, hasked, h.asked]
    rfl
  · rw [harrivals, List.filterMap_append, hmessage, h.dispatched]
    rcases verdict with cause | - | - <;> rfl
  · rw [List.filterMap_append, hbroken, h.broken]
    rfl

/-- The steps of a reader with an open source are told by what arrives and what the rule says. -/
theorem FeedSteps.log {pending : List Bytes} {ops : List (FeedOp W)} {calls : List (FeedCall W)}
    {notes : List (FeedNote W S)} (h : FeedSteps (some pending) ops calls notes) :
    ∃ verdicts, FeedLog pending ops verdicts notes := by
  -- By induction on the steps: the rule has spoken when a fragment is added to the open ones, and there
  -- are no steps worth a note behind the one that closes the source.
  generalize hopen : some pending = now at h
  induction h generalizing pending with
  | nil => exact ⟨[], rfl, rfl, rfl, rfl⟩
  | cons step steps ih =>
    subst hopen
    cases step with
    | take => exact (ih rfl).imp fun _ h ↦ ⟨h.ruled, h.asked, h.dispatched, h.broken⟩
    | elsewhere => exact (ih rfl).imp fun _ h ↦ ⟨h.ruled, h.asked, h.dispatched, h.broken⟩
    | empty => exact (ih rfl).imp fun _ h ↦ ⟨h.ruled, h.asked, h.dispatched, h.broken⟩
    | more hne =>
      obtain ⟨verdicts, hlog⟩ := ih rfl
      exact ⟨.ok false :: verdicts, hlog.fragment hne rfl rfl rfl⟩
    | complete hne =>
      obtain ⟨verdicts, hlog⟩ := ih rfl
      exact ⟨.ok true :: verdicts, hlog.fragment hne rfl rfl rfl⟩
    | @spoiled _ _ cause hne =>
      obtain ⟨verdicts, hlog⟩ := ih rfl
      exact ⟨.error cause :: verdicts, hlog.fragment hne rfl rfl rfl⟩
    | ended =>
      obtain rfl := steps.of_closed
      exact ⟨[], rfl, rfl, rfl, rfl⟩
    | failed =>
      obtain rfl := steps.of_closed
      exact ⟨[], rfl, rfl, rfl, rfl⟩

/-! ### The account of a run -/

/-- No fragment that is taken is empty. -/
theorem FeedOp.ne_nil_of_mem_arrivals (ops : List (FeedOp W)) :
    ∀ fragment ∈ FeedOp.arrivals ops, fragment ≠ [] := by
  induction ops with
  | nil => simp [FeedOp.arrivals]
  | cons op ops ih =>
    cases op with
    | read event =>
      cases event with
      | fragment bytes => by_cases hnil : bytes = [] <;> simp_all [FeedOp.arrivals]
      | endOfStream => simp [FeedOp.arrivals]
      | failed error => simp [FeedOp.arrivals]
    | take => exact ih
    | elsewhere change => exact ih

/-- What operations come to: the calls that are made, the notes of them, the failures that were taken,
and what the reader has in the end. -/
structure FeedAccount (host : ConnectionHost W S) (cell : Cell W Connection) (ops : List (FeedOp W))
    (calls : List (FeedCall W)) (verdicts : List (Except Fault Bool)) (notes : List (FeedNote W S))
    (taken : List (List Fault)) (last : Reader P ConnectionSink) : Prop extends
    FeedLog [] ops verdicts notes where
  /-- The calls and their notes are those of the operations, one after another, and no others. -/
  steps : FeedSteps (some []) ops calls notes
  /-- The cut is one of the fragments that arrive. -/
  cut : let cut := Cut.ofRulings [] ((FeedOp.arrivals ops).zip verdicts)
    cut.ended.flatMap EndedUnit.fragments ++ cut.last = FeedOp.arrivals ops
  /-- A message has the fragments of its unit. -/
  content : ∀ u ∈ (Cut.ofRulings [] ((FeedOp.arrivals ops).zip verdicts)).ended,
    (Buffer.ofFragments u.fragments).fragments = u.fragments
  /-- The messages are counted. -/
  counted : last.completedMessages = (notes.filterMap FeedNote.message?).length
  /-- What was taken, and what is left to take, is what was reported. -/
  recorded : taken.flatten ++ last.sink.failures = notes.filterMap FeedNote.fault?
  /-- The notes can be relied on. -/
  genuine : ∀ note ∈ notes, note.Genuine host cell

/-- **Every message and every failure of a feed is accounted for.** What a reader does on any operations
is to make calls, and their notes account for the operations: the messages that the connection deals
with are the complete units of what arrives, in order, each in a pass that begins with its read event,
and the failures that are taken, with those that are left, are those of failed messages, of a failing
rule and of the source, each once and in order, with their causes. -/
theorem Reader.account_feed (host : ConnectionHost W S) (cell : Cell W Connection)
    (rule : CompletionRule W P) (connection : ConnectionId) (state : P) (ops : List (FeedOp W))
    (w : W) :
    let run := (Reader.fresh connection state {}).feed host cell rule ops w
    ∃ calls verdicts notes,
      FeedCall.play host cell rule calls state w = ((notes, run.1.2.rule), run.2) ∧
        FeedAccount host cell ops calls verdicts notes run.1.1 run.1.2 := by
  have hfresh : (Reader.fresh connection state ({} : ConnectionSink)).Collects (some []) := ⟨rfl, rfl⟩
  obtain ⟨calls, notes, hsteps, hmade⟩ := Reader.made_feed host cell rule hfresh ops w
  obtain ⟨verdicts, hlog⟩ := hsteps.log
  have hcut := Cut.fragments_ofRulings [] ((FeedOp.arrivals ops).zip verdicts)
  rw [List.nil_append, List.map_fst_zip (Nat.le_of_eq hlog.ruled.symm)] at hcut
  refine ⟨calls, verdicts, notes, hmade.played, hlog, hsteps, hcut, fun u hu ↦ ?_, ?_,
    hmade.recorded, ?_⟩
  · -- A buffer leaves out empty fragments, and none of those that arrive is empty.
    refine Buffer.fragments_ofFragments fun fragment hfragment ↦
      FeedOp.ne_nil_of_mem_arrivals ops fragment ?_
    rw [← hcut]
    exact List.mem_append_left _ (List.mem_flatMap.2 ⟨u, hu, hfragment⟩)
  · rw [hmade.counted]
    exact Nat.zero_add _
  · have hgenuine := FeedCall.genuine_play host cell rule calls state w
    have hplayed : FeedCall.play host cell rule calls state w = _ := hmade.played
    rwa [hplayed] at hgenuine

end Conduit
