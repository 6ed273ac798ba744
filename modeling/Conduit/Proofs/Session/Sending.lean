import Conduit.Proofs.Session.History

/-!
# What is sent, and by whom

A session sends through its protocol, and only while it is connected or closing. Every operation that
sends passes the same gate: it looks at the phase of the session that is to send, and either calls the
protocol of that session, once, or calls nobody and answers that the session is not connected
(`Tried`). The answer to a ping is followed by the notice to the listeners, if there was one. A
broadcast has a gate of its own in front, and then tries its recipients in their order, each of them
with the sessions as the one before has left them (`TriedAll`).

What an operation does by itself is told apart from what happens in its callbacks by the number that
every moment of the history carries. So the statement (`SessionProgram.outgoing_run`) is about all
that an operation did, in its order, from the sessions as it found them to its answer.
-/

namespace Conduit

namespace SessionPhase

/-- The gate is open from when a session is connected until it is closed. -/
theorem isConnected_iff {phase : SessionPhase} :
    phase.isConnected = true ↔ phase = .connected ∨ phase = .closing := by
  cases phase <;> decide

/-- It is shut before and after. -/
theorem not_isConnected_iff {phase : SessionPhase} :
    ¬phase.isConnected = true ↔ phase = .new ∨ phase = .closed := by
  cases phase <;> decide

end SessionPhase

/-! ### What an operation that sends does -/

section Specification

variable {L : Type}

/-- What comes of a protocol being called for a session: the moments that make it up, with the number
of the operation, the answer, and the sessions once it is over. -/
inductive Tried (n : Nat) (s : SessionRef) (callback : SessionCallback L)
    (now : SessionRef → Session (Registration L)) :
    List (SessionMoment L) → Except Fault Unit → (SessionRef → Session (Registration L)) → Prop where
  /-- A new or closed session calls nobody. -/
  | refused (h : (now s).phase = .new ∨ (now s).phase = .closed) :
    Tried n s callback now [] (.error (SessionError.notConnected (now s).phase).toFault) now
  /-- A connected or closing session calls its protocol once, and answers as that does. -/
  | made (h : (now s).phase = .connected ∨ (now s).phase = .closing) (answer : Except Fault Unit)
      (after : SessionRef → Session (Registration L)) :
    Tried n s callback now
      [⟨n, .called callback, now⟩, ⟨n, .returned callback answer, after⟩] answer after

/-- What comes of sessions being tried one after another: the moments, and the answer of each one. -/
inductive TriedAll (n : Nat) (frame : Frame) :
    (SessionRef → Session (Registration L)) → List SessionRef → List (SessionMoment L) →
      List (Except Fault Unit) → Prop where
  | nil (now : SessionRef → Session (Registration L)) : TriedAll n frame now [] [] []
  | cons {now after : SessionRef → Session (Registration L)} {recipient : SessionRef}
      {recipients : List SessionRef} {own owns : List (SessionMoment L)}
      {answer : Except Fault Unit} {answers : List (Except Fault Unit)}
      (first : Tried n recipient (.send recipient frame) now own answer after)
      (rest : TriedAll n frame after recipients owns answers) :
    TriedAll n frame now (recipient :: recipients) (own ++ owns) (answer :: answers)

/-- Listeners are told something, one after another. -/
inductive ToldAll (n : Nat) (s : SessionRef) (notice : Notice) :
    List (Registration L) → List (SessionMoment L) → Prop where
  | nil : ToldAll n s notice [] []
  | cons {registration : Registration L} {registrations : List (Registration L)}
      {own : List (SessionMoment L)} (now after : SessionRef → Session (Registration L))
      (answer : Except Fault Unit) (rest : ToldAll n s notice registrations own) :
    ToldAll n s notice (registration :: registrations)
      (⟨n, .called (.notify registration s notice), now⟩ ::
        ⟨n, .returned (.notify registration s notice) answer, after⟩ :: own)

/-- What an operation that sends does by itself once it has begun, when it finds the sessions as they
are `before`, and what it answers. Nothing is said here of the other operations. -/
def Sends (n : Nat) (before : SessionRef → Session (Registration L)) (s : SessionRef)
    (own : List (SessionMoment L)) : (op : SessionCall L) → op.Answer → Prop
  | .sendText text, answer => ∃ after, Tried n s (.send s (.text text)) before own answer after
  | .sendBinary payload, answer =>
    ∃ after, Tried n s (.send s (.binary payload)) before own answer after
  | .sendPing payload, answer => ∃ after, Tried n s (.send s (.ping payload)) before own answer after
  | .sendPong payload, answer => ∃ after, Tried n s (.send s (.pong payload)) before own answer after
  | .sendFrame frame, answer => ∃ after, Tried n s (.send s frame) before own answer after
  | .sendFragment last payload, answer =>
    ∃ after, Tried n s (.stream s last payload) before own answer after
  | .onPing payload, answer =>
    ∃ pong told after, own = pong ++ told ∧
      Tried n s (.send s (.pong payload)) before pong answer after ∧
      (answer = .ok () →
        ToldAll n s (.ping payload) ((after s).listeners.map Prod.snd) told) ∧
      (answer ≠ .ok () → told = [])
  | .broadcast recipients frame, answer =>
    if (before s).phase = .connected then
      ∃ answers, TriedAll n frame before recipients own answers ∧
        answer = .ok (answers.countP Except.isOk)
    else own = [] ∧ answer = .error (SessionError.alreadyClosed (before s).phase).toFault
  | _, _ => True

namespace SessionMoment

/-- A protocol is asked to send something only while its session is connected or closing. -/
def Gated (moment : SessionMoment L) : Prop :=
  ∀ s, (∃ frame, moment.event = .called (.send s frame)) ∨
      (∃ last payload, moment.event = .called (.stream s last payload)) →
    (moment.sessions s).phase = .connected ∨ (moment.sessions s).phase = .closing

/-- When an operation answers, all that it did before is that it began, and then what it has to do. -/
def Accounted (moment : SessionMoment L) (earlier : List (SessionMoment L)) : Prop :=
  ∀ s op answer, moment.event = .ended s op answer →
    ∃ before own, (earlier.filter (·.call = moment.call)).reverse =
        ⟨moment.call, .began s op, before⟩ :: own ∧
      Sends moment.call before s own op answer

/-- Only a moment at which an operation answers has anything to account for. -/
theorem accounted_of_ended? {moment : SessionMoment L} (h : moment.ended? = none)
    (earlier : List (SessionMoment L)) : moment.Accounted earlier := by
  intro s op answer hevent
  rw [ended?, hevent] at h
  contradiction

end SessionMoment

end Specification

namespace SessionWorld

open SessionMoment

variable {L U A B : Type} {w w' w'' : SessionWorld L U} {s : SessionRef} {user : U}

/-- **Nothing is sent past the gate**, in any run. -/
theorem Steps.gated (h : Steps (.fresh user) w) : ∀ moment ∈ w.history, moment.Gated := by
  induction h with
  | refl => exact fun _ hmem ↦ absurd hmem List.not_mem_nil
  | tail _ hstep ih =>
    cases hstep with
    | user => exact ih
    | shake | shut =>
      refine List.forall_mem_cons.2 ⟨?_, List.forall_mem_cons.2 ⟨?_, ih⟩⟩
      · rintro s (⟨frame, ⟨⟩⟩ | ⟨last, payload, ⟨⟩⟩)
      · rintro s (⟨frame, ⟨⟩⟩ | ⟨last, payload, ⟨⟩⟩)
    | call hallows =>
      refine List.forall_mem_cons.2 ⟨?_, ih⟩
      rintro s (⟨frame, ⟨⟩⟩ | ⟨last, payload, ⟨⟩⟩)
      · exact SessionPhase.isConnected_iff.1 hallows
      · exact SessionPhase.isConnected_iff.1 hallows
    | _ =>
      refine List.forall_mem_cons.2 ⟨?_, ih⟩
      rintro s (⟨frame, ⟨⟩⟩ | ⟨last, payload, ⟨⟩⟩)

/-! ### What an operation does by itself -/

/-- What the operation of a number has done, in its order. -/
def madeBy (w : SessionWorld L U) (n : Nat) : List (SessionMoment L) :=
  (w.history.filter (·.call = n)).reverse

/-- The number of the innermost operation in progress. -/
def top (w : SessionWorld L U) : Nat :=
  w.running.headD 0

/-- The numbers up to the last one that was given out belong to what has happened, and every operation
that has answered is accounted for. -/
structure Counted (w : SessionWorld L U) : Prop where
  top : w.top ≤ w.begun
  calls : ∀ moment ∈ w.history, moment.call ≤ w.begun
  answered : ∀ n ∈ w.history.filterMap begun?, n ∈ w.history.filterMap ended? ∨ n ∈ w.running
  accounted : Each Accounted w.history

/-- From one world to another, the innermost operation in progress did just this, and no operation that
began before did anything else. -/
structure Does (w w' : SessionWorld L U) (own : List (SessionMoment L)) : Prop where
  running : w'.running = w.running
  begun : w.begun ≤ w'.begun
  counted : w'.Counted
  made : ∀ n ≤ w.begun, w'.madeBy n = w.madeBy n ++ if n = w.top then own else []

/-- What is noted is done by the operation in progress. -/
theorem madeBy_note (w : SessionWorld L U) (event : SessionEvent L) (n : Nat) :
    (w.note event).madeBy n =
      w.madeBy n ++ if n = w.top then [⟨w.top, event, w.sessions⟩] else [] := by
  show ((⟨w.top, event, w.sessions⟩ :: w.history).filter (·.call = n)).reverse = _
  by_cases h : n = w.top
  · rw [List.filter_cons_of_pos (by simpa using h.symm), List.reverse_cons, if_pos h]
    rfl
  · rw [List.filter_cons_of_neg (by simpa using Ne.symm h), if_neg h, List.append_nil]
    rfl

/-- Whatever is done, the innermost operation in progress is the same. -/
theorem Does.top {own : List (SessionMoment L)} (h : w.Does w' own) : w'.top = w.top :=
  congrArg (List.headD · 0) h.running

theorem Counted.refl_does (h : w.Counted) : w.Does w [] where
  running := rfl
  begun := Nat.le_refl _
  counted := h
  made n _ := by simp

theorem Does.trans {own own' : List (SessionMoment L)} (h : w.Does w' own) (h' : w'.Does w'' own') :
    w.Does w'' (own ++ own') where
  running := h'.running.trans h.running
  begun := h.begun.trans h'.begun
  counted := h'.counted
  made n hn := by
    rw [h'.made n (hn.trans h.begun), h.made n hn, h.top, List.append_assoc]
    by_cases heq : n = w.top
    · simp only [if_pos heq]
    · simp only [if_neg heq, List.append_nil]

/-- A change without a note is nothing that an operation did. -/
theorem Counted.does_change (h : w.Counted) (s : SessionRef) (session : Session (Registration L)) :
    w.Does (w.change s session) [] where
  running := rfl
  begun := Nat.le_refl _
  counted := ⟨h.top, h.calls, h.answered, h.accounted⟩
  made n _ := by
    rw [ite_self, List.append_nil]
    rfl

/-- A note is the one thing that the operation in progress did, unless it begins or ends one. -/
theorem Counted.does_note (h : w.Counted) {event : SessionEvent L}
    (hbegun : begun? ⟨w.top, event, w.sessions⟩ = none)
    (hended : ended? ⟨w.top, event, w.sessions⟩ = none) :
    w.Does (w.note event) [⟨w.top, event, w.sessions⟩] where
  running := rfl
  begun := Nat.le_refl _
  counted := by
    refine ⟨h.top, List.forall_mem_cons.2 ⟨h.top, h.calls⟩, ?_,
      accounted_of_ended? hended _, h.accounted⟩
    show ∀ n ∈ (⟨w.top, event, w.sessions⟩ :: w.history).filterMap begun?,
      n ∈ (⟨w.top, event, w.sessions⟩ :: w.history).filterMap ended? ∨ n ∈ w.running
    rw [List.filterMap_cons_none hbegun, List.filterMap_cons_none hended]
    exact h.answered
  made n _ := madeBy_note w event n

/-- An action in which the innermost operation in progress does nothing by itself. -/
def Apart (action : StateM (SessionWorld L U) A) : Prop :=
  ∀ w : SessionWorld L U, w.Counted → w.Does (action w).2 []

/-- An action in which the innermost operation in progress may do something by itself. -/
def Doing (action : StateM (SessionWorld L U) A) : Prop :=
  ∀ w : SessionWorld L U, w.Counted → ∃ own, w.Does (action w).2 own

namespace Doing

theorem pure (a : A) : Doing (pure a : StateM (SessionWorld L U) A) :=
  fun _ hw ↦ ⟨[], hw.refl_does⟩

theorem bind {x : StateM (SessionWorld L U) A} {f : A → StateM (SessionWorld L U) B}
    (hx : Doing x) (hf : ∀ a, Doing (f a)) : Doing (x >>= f) := by
  intro w hw
  obtain ⟨own, hfirst⟩ := hx w hw
  obtain ⟨own', hrest⟩ := hf (x w).1 (x w).2 hfirst.counted
  exact ⟨own ++ own', hfirst.trans hrest⟩

theorem forM {f : A → StateM (SessionWorld L U) Unit} (hf : ∀ a, Doing (f a)) (list : List A) :
    Doing (list.forM f) := by
  induction list with
  | nil => exact .pure ()
  | cons a list ih => exact (hf a).bind fun _ ↦ ih

end Doing

/-! ### The parts of operations -/

section Parts

variable {act : SessionCallback L → StateM (SessionWorld L U) (Except Fault Unit)}

theorem doing_run (s : SessionRef) (f : StateM (Session (Registration L)) A) :
    Doing (((host act).session s).run f) := by
  intro w hw
  rw [run_session, write]
  split
  · exact ⟨[], hw.does_change s _⟩
  · have hchanged := hw.does_change s (f (w.sessions s)).2
    exact ⟨_, hchanged.trans (hchanged.counted.does_note rfl rfl)⟩

theorem doing_get (s : SessionRef) : Doing ((host act).session s).get :=
  fun _ hw ↦ ⟨[], hw.refl_does⟩

/-- Of a callback, an operation makes the call and the return by itself. -/
theorem Counted.does_callBack (hw : w.Counted) (hact : ∀ callback, Apart (act callback))
    (callback : SessionCallback L) :
    let ended := callBack act callback w
    w.Does ended.2 [⟨w.top, .called callback, w.sessions⟩,
      ⟨w.top, .returned callback ended.1, ended.2.sessions⟩] := by
  intro ended
  have hcalled : w.Does (w.note (.called callback)) _ := hw.does_note rfl rfl
  have hacted := hact callback _ hcalled.counted
  have hreturned : Does (act callback (w.note (.called callback))).2 ended.2 _ :=
    hacted.counted.does_note rfl rfl
  rw [(hcalled.trans hacted).top] at hreturned
  exact hcalled.trans (hacted.trans hreturned)

/-- An operation that calls back does so by itself. What comes of the call is done by others. -/
theorem doing_callBack (hact : ∀ callback, Apart (act callback)) (callback : SessionCallback L) :
    Doing (callBack act callback) :=
  fun _ hw ↦ ⟨_, hw.does_callBack hact callback⟩

theorem doing_notify (hact : ∀ callback, Apart (act callback)) (registration : Registration L)
    (s : SessionRef) (notice : Notice) : Doing ((host act).notify registration s notice) :=
  fun _ hw ↦ ⟨_, hw.does_callBack hact _⟩

theorem doing_announce (hact : ∀ callback, Apart (act callback)) (s : SessionRef)
    (notice : Notice) : Doing ((host act).announce s notice) :=
  (doing_get s).bind fun _ ↦ .forM (fun _ ↦ doing_notify hact _ s notice) _

/-- A drain looks for the next listener until there is none left. -/
theorem doing_drainListeners (hact : ∀ callback, Apart (act callback)) (s : SessionRef)
    (reason : CloseReason) : Doing ((host act).drainListeners s reason) := by
  refine (doing_get s).bind fun _ ↦ .forM (fun id ↦ (doing_run s _).bind fun found ↦ ?_) _
  cases found with
  | none => exact .pure ()
  | some registration => exact doing_notify hact registration s _

theorem doing_finish (hact : ∀ callback, Apart (act callback)) (s : SessionRef) :
    Doing ((host act).finish s) := by
  refine (doing_run s _).bind fun before ↦ ?_
  cases before.isTerminal with
  | true => exact .pure ()
  | false => exact fun _ hw ↦ ⟨_, hw.does_callBack hact _⟩

/-- To connect a session is an operation that sends nothing, so no more than this is needed. -/
theorem doing_onConnect (hact : ∀ callback, Apart (act callback)) (s : SessionRef) :
    Doing ((host act).onConnect s) := by
  refine (doing_run s _).bind fun moved ↦ ?_
  cases moved with
  | ok => exact (doing_announce hact s _).bind fun _ ↦ .pure _
  | error phase => cases phase <;> exact .pure _

theorem doing_close (hact : ∀ callback, Apart (act callback)) (s : SessionRef)
    (reason : CloseReason) : Doing ((host act).close s reason) := by
  refine (doing_run s _).bind fun moved ↦ ?_
  cases moved with
  | ok => exact (doing_callBack hact (.close s reason)).bind fun _ ↦ .pure _
  | error phase => exact .pure _

theorem doing_onClose (hact : ∀ callback, Apart (act callback)) (s : SessionRef)
    (reason : CloseReason) : Doing ((host act).onClose s reason) := by
  refine (doing_run s _).bind fun moved ↦ ?_
  have hdrained : ∀ echoed : Except Fault Unit, Doing (do
      (host act).drainListeners s reason
      return echoed) :=
    fun echoed ↦ (doing_drainListeners hact s reason).bind fun _ ↦ .pure echoed
  cases moved with
  | ok => exact (doing_callBack hact (.close s reason)).bind hdrained
  | error phase => exact (doing_finish hact s).bind fun _ ↦ hdrained _

theorem doing_markClosed (hact : ∀ callback, Apart (act callback)) (s : SessionRef) :
    Doing ((host act).markClosed s) :=
  (doing_finish hact s).bind fun _ ↦ doing_drainListeners hact s _

/-! ### Operations that send -/

/-- The gate that everything that is sent has to pass. -/
theorem Counted.tried (hw : w.Counted) (hact : ∀ callback, Apart (act callback)) (s : SessionRef)
    (callback : SessionCallback L) :
    let ended := (host act).whenConnected s (callBack act callback) w
    ∃ own, w.Does ended.2 own ∧ Tried w.top s callback w.sessions own ended.1 ended.2.sessions := by
  simp only [SessionHost.whenConnected, bind, StateT.bind, run_phase]
  split
  · next h => exact ⟨_, hw.does_callBack hact callback, .made (SessionPhase.isConnected_iff.1 h) _ _⟩
  · next h => exact ⟨[], hw.refl_does, .refused (SessionPhase.not_isConnected_iff.1 h)⟩

/-- **What comes of sending a frame** is either nothing, when the gate is shut, or one call of the
protocol. -/
theorem Counted.tried_sendFrame (hw : w.Counted) (hact : ∀ callback, Apart (act callback))
    (s : SessionRef) (frame : Frame) :
    let ended := (host act).sendFrame s frame w
    ∃ own, w.Does ended.2 own ∧
      Tried w.top s (.send s frame) w.sessions own ended.1 ended.2.sessions :=
  hw.tried hact s (.send s frame)

/-- Every recipient is tried, in the order of the list, whatever the answers of those before. -/
theorem Counted.triedAll (hw : w.Counted) (hact : ∀ callback, Apart (act callback)) (frame : Frame)
    (recipients : List SessionRef) (count : Nat) :
    let ended := recipients.foldlM (fun count recipient ↦ do
      match ← (host act).sendFrame recipient frame with
      | .ok () => return count + 1
      | .error _ => (return count : StateM (SessionWorld L U) Nat)) count |>.run w
    ∃ own answers, w.Does ended.2 own ∧ TriedAll w.top frame w.sessions recipients own answers ∧
      ended.1 = count + answers.countP Except.isOk := by
  induction recipients generalizing count w with
  | nil => exact ⟨[], [], hw.refl_does, .nil _, rfl⟩
  | cons recipient recipients ih =>
    obtain ⟨own, hfirst, htried⟩ := hw.tried_sendFrame hact recipient frame
    simp only [List.foldlM_cons, StateT.run, bind, StateT.bind]
    rcases hsent : (host act).sendFrame recipient frame w with ⟨answer, w₁⟩
    rw [hsent] at hfirst htried
    cases answer with
    | error fault =>
      obtain ⟨owns, answers, hrest, hall, hcount⟩ := ih hfirst.counted count
      exact ⟨own ++ owns, _ :: answers, hfirst.trans hrest, .cons htried (hfirst.top ▸ hall), hcount⟩
    | ok =>
      obtain ⟨owns, answers, hrest, hall, hcount⟩ := ih hfirst.counted (count + 1)
      refine ⟨own ++ owns, _ :: answers, hfirst.trans hrest, .cons htried (hfirst.top ▸ hall), ?_⟩
      rw [List.countP_cons_of_pos rfl]
      exact hcount.trans (Nat.add_right_comm _ 1 _)

/-- A session that is not connected sends nothing to anyone, and any other one tries everyone. -/
theorem Counted.sends_broadcast (hw : w.Counted) (hact : ∀ callback, Apart (act callback))
    (s : SessionRef) (recipients : List SessionRef) (frame : Frame) :
    let ended := (host act).broadcast s recipients frame w
    ∃ own, w.Does ended.2 own ∧
      Sends w.top w.sessions s own (.broadcast recipients frame : SessionCall L) ended.1 := by
  simp only [SessionHost.broadcast, Sends, bind, StateT.bind, run_phase]
  by_cases hphase : (w.sessions s).phase = .connected
  · obtain ⟨own, answers, hdoes, hall, hcount⟩ := hw.triedAll hact frame recipients 0
    rw [Nat.zero_add] at hcount
    simp only [hphase, ne_eq, not_true_eq_false, if_true, if_false]
    exact ⟨own, hdoes, answers, hall, congrArg Except.ok hcount⟩
  · simp only [ne_eq, hphase, not_false_eq_true, if_true, if_false]
    exact ⟨[], hw.refl_does, rfl, rfl⟩

/-- Whoever is registered is told, in the order of the registrations. -/
theorem Counted.toldAll (hw : w.Counted) (hact : ∀ callback, Apart (act callback)) (s : SessionRef)
    (notice : Notice) (listeners : List (ListenerId × Registration L)) :
    ∃ own, w.Does ((listeners.forM fun e ↦ (host act).notify e.2 s notice) w).2 own ∧
      ToldAll w.top s notice (listeners.map Prod.snd) own := by
  induction listeners generalizing w with
  | nil => exact ⟨[], hw.refl_does, .nil⟩
  | cons entry listeners ih =>
    have hfirst := hw.does_callBack hact (.notify entry.2 s notice)
    obtain ⟨own, hrest, htold⟩ := ih hfirst.counted
    exact ⟨_, hfirst.trans hrest, .cons _ _ _ (hfirst.top ▸ htold)⟩

/-- The pong is sent first, and the listeners are told if it was. -/
theorem Counted.sends_onPing (hw : w.Counted) (hact : ∀ callback, Apart (act callback))
    (s : SessionRef) (payload : Bytes) :
    let ended := (host act).onPing s payload w
    ∃ own, w.Does ended.2 own ∧
      Sends w.top w.sessions s own (.onPing payload : SessionCall L) ended.1 := by
  obtain ⟨pong, hpong, htried⟩ := hw.tried_sendFrame hact s (.pong payload)
  simp only [SessionHost.onPing, SessionHost.sendPong, bind, StateT.bind]
  rcases hsent : (host act).sendFrame s (.pong payload) w with ⟨answer, w₁⟩
  rw [hsent] at hpong htried
  cases answer with
  | error fault =>
    refine ⟨pong, hpong, pong, [], _, (List.append_nil _).symm, htried, fun hsent ↦ ?_, fun _ ↦ rfl⟩
    cases hsent
  | ok =>
    obtain ⟨told, htold, hall⟩ :=
      hpong.counted.toldAll hact s (.ping payload) (w₁.sessions s).listeners
    exact ⟨pong ++ told, hpong.trans htold, pong, told, _, rfl, htried, fun _ ↦ hpong.top ▸ hall,
      fun h ↦ absurd rfl h⟩

/-- Every operation does what it has to do. -/
theorem Counted.sends_operate (hw : w.Counted) (hact : ∀ callback, Apart (act callback))
    (s : SessionRef) (op : SessionCall L) :
    let ended := (host act).operate s op w
    ∃ own, w.Does ended.2 own ∧ Sends w.top w.sessions s own op ended.1 := by
  have hother : Doing ((host act).operate s op) → (∀ n before own answer, Sends n before s own op answer) →
      ∃ own, w.Does ((host act).operate s op w).2 own ∧
        Sends w.top w.sessions s own op ((host act).operate s op w).1 := by
    intro hdoing hsends
    obtain ⟨own, hdoes⟩ := hdoing w hw
    exact ⟨own, hdoes, hsends _ _ _ _⟩
  cases op with
  | sendText | sendBinary | sendPing | sendPong | sendFrame =>
    obtain ⟨own, hdoes, htried⟩ := hw.tried hact s (.send s _)
    exact ⟨own, hdoes, _, htried⟩
  | sendFragment last payload =>
    obtain ⟨own, hdoes, htried⟩ := hw.tried hact s (.stream s last payload)
    exact ⟨own, hdoes, _, htried⟩
  | onPing payload => exact hw.sends_onPing hact s payload
  | broadcast recipients frame => exact hw.sends_broadcast hact s recipients frame
  | onConnect => exact hother (doing_onConnect hact s) fun _ _ _ _ ↦ trivial
  | onMessage | onFragment | onPong =>
    exact hother (doing_announce hact s _) fun _ _ _ _ ↦ trivial
  | onClose reason => exact hother (doing_onClose hact s reason) fun _ _ _ _ ↦ trivial
  | close reason => exact hother (doing_close hact s reason) fun _ _ _ _ ↦ trivial
  | markClosed => exact hother (doing_markClosed hact s) fun _ _ _ _ ↦ trivial
  | addListener listener =>
    exact hother ((doing_get s).bind fun _ ↦ doing_run s _) fun _ _ _ _ ↦ trivial
  | removeListener id =>
    exact hother ((doing_run s _).bind fun _ ↦ .pure _) fun _ _ _ _ ↦ trivial

/-! ### From the beginning of an operation to its answer -/

/-- An operation that has not begun has done nothing. -/
theorem Counted.madeBy_of_lt (hw : w.Counted) {n : Nat} (h : w.begun < n) : w.madeBy n = [] := by
  rw [madeBy, List.reverse_eq_nil_iff, List.filter_eq_nil_iff]
  intro moment hmem hcall
  have hle := hw.calls moment hmem
  rw [of_decide_eq_true hcall] at hle
  exact Nat.not_le_of_lt h hle

/-- An operation that begins is not accounted for yet. -/
theorem Counted.begin (hw : w.Counted) (s : SessionRef) (op : SessionCall L) :
    (w.begin s op).Counted where
  top := Nat.le_refl _
  calls := List.forall_mem_cons.2
    ⟨Nat.le_refl _, fun moment hmem ↦ Nat.le_succ_of_le (hw.calls moment hmem)⟩
  answered n hmem := by
    rcases List.mem_cons.1 hmem with rfl | hmem
    · exact Or.inr List.mem_cons_self
    · exact (hw.answered n hmem).imp_right (List.mem_cons_of_mem _)
  accounted := ⟨accounted_of_ended? rfl _, hw.accounted⟩

/-- An operation that begins has done just that. -/
theorem madeBy_begin (w : SessionWorld L U) (s : SessionRef) (op : SessionCall L) (n : Nat) :
    (w.begin s op).madeBy n =
      w.madeBy n ++ if n = w.begun + 1 then [⟨w.begun + 1, .began s op, w.sessions⟩] else [] :=
  madeBy_note _ _ n

/-- An operation is accounted for once it has answered, and it is not part of the one around it. -/
theorem Counted.does_finish (hw : w.Counted) {op : SessionCall L} {answer : op.Answer}
    {own : List (SessionMoment L)} (hdoes : (w.begin s op).Does w' own)
    (hsends : Sends (w.begun + 1) w.sessions s own op answer) :
    w.Does (w'.finish s op answer) [] := by
  have hrunning : w'.running = (w.begun + 1) :: w.running := hdoes.running
  have htop : w'.top = w.begun + 1 := congrArg (List.headD · 0) hrunning
  have htail : (w'.finish s op answer).running = w.running := congrArg List.tail hrunning
  have hle : w.begun + 1 ≤ w'.begun := hdoes.begun
  have hended : (w'.finish s op answer).history =
      ⟨w.begun + 1, .ended s op answer, w'.sessions⟩ :: w'.history := by rw [← htop]; rfl
  have hmade : ∀ n ≤ w.begun + 1, w'.madeBy n =
      (w.begin s op).madeBy n ++ if n = w.begun + 1 then own else [] := hdoes.made
  refine ⟨htail, Nat.le_of_succ_le hle, ?_, fun n hn ↦ ?_⟩
  · constructor
    · show (w'.finish s op answer).running.headD 0 ≤ w'.begun
      rw [htail]
      exact hw.top.trans (Nat.le_of_succ_le hle)
    · rw [hended]
      exact List.forall_mem_cons.2 ⟨hle, hdoes.counted.calls⟩
    · rw [hended, htail]
      intro n hmem
      have hanswered := hdoes.counted.answered n hmem
      rw [hrunning] at hanswered
      rcases hanswered with hearlier | hrunning
      · exact Or.inl (List.mem_cons_of_mem _ hearlier)
      · rcases List.mem_cons.1 hrunning with rfl | hstill
        · exact Or.inl List.mem_cons_self
        · exact Or.inr hstill
    · rw [hended]
      refine ⟨?_, hdoes.counted.accounted⟩
      rintro _ _ _ ⟨⟩
      have hown : w'.madeBy (w.begun + 1) = ⟨w.begun + 1, .began s op, w.sessions⟩ :: own := by
        rw [hmade _ (Nat.le_refl _), madeBy_begin, hw.madeBy_of_lt (Nat.lt_succ_self _),
          if_pos rfl, if_pos rfl]
        rfl
      exact ⟨w.sessions, own, hown, hsends⟩
  · have hne : n ≠ w.begun + 1 := Nat.ne_of_lt (Nat.lt_succ_of_le hn)
    have hsame : (w'.finish s op answer).madeBy n = w'.madeBy n := by
      refine (madeBy_note w' _ n).trans ?_
      rw [htop, if_neg hne, List.append_nil]
    rw [hsame, hmade n (Nat.le_succ_of_le hn), madeBy_begin, if_neg hne, if_neg hne, ite_self]
    exact List.append_nil _

/-- **An operation is apart from the one in which it is called**, if everything is that it calls back. -/
theorem apart_perform (hact : ∀ callback, Apart (act callback)) (s : SessionRef)
    (op : SessionCall L) : Apart (perform act s op) := by
  intro w hw
  obtain ⟨own, hdoes, hsends⟩ := (hw.begin s op).sends_operate hact s op
  exact hw.does_finish hdoes hsends

end Parts

/-- So is a program, by induction over it. -/
theorem apart_program (program : SessionProgram L U) : Apart program.run := by
  induction program with
  | done answer => exact fun w hw ↦ hw.refl_does
  | user change next ih =>
    intro w hw
    have hchanged : w.Does { w with user := change w.user } [] :=
      ⟨rfl, Nat.le_refl _, ⟨hw.top, hw.calls, hw.answered, hw.accounted⟩, hw.refl_does.made⟩
    exact hchanged.trans (ih w.user _ hchanged.counted)
  | look s next ih => exact fun w hw ↦ ih (w.sessions s) w hw
  | call s op callbacks next ihCallbacks ihNext =>
    intro w hw
    have hperformed := apart_perform ihCallbacks s op w hw
    exact hperformed.trans (ihNext _ _ hperformed.counted)

/-- What is sent around sessions, whatever programs do. -/
structure Outgoing (w : SessionWorld L U) : Prop where
  /-- Every operation has a number of its own. -/
  numbers : (w.history.filterMap begun?).Nodup
  /-- Every operation that begins is answered. -/
  answered : ∀ n ∈ w.history.filterMap begun?, n ∈ w.history.filterMap ended?
  /-- Protocols are asked to send something only while their sessions are connected or closing. -/
  gated : ∀ moment ∈ w.history, moment.Gated
  /-- Every operation that sends did what it has to do when it answers, and nothing else. -/
  accounted : Each Accounted w.history

end SessionWorld

/-- **Everything that is sent passes the gate.** Whatever programs do with new sessions, and whatever
their protocols and listeners call back, a protocol is asked to send only while its session is
connected or closing. Sending in another phase calls nobody; the listeners are told of a ping if and
only if the pong was sent, and only after it; and a broadcast of a connected session tries everyone in
order, and counts those whose protocols have accepted the frame. -/
theorem SessionProgram.outgoing_run {L U : Type} (user : U) (program : SessionProgram L U) :
    (program.run (.fresh user)).2.Outgoing := by
  have hsteps := program.steps_run user
  have hfresh : (SessionWorld.fresh user : SessionWorld L U).Counted :=
    ⟨Nat.le_refl _, fun _ hmem ↦ absurd hmem List.not_mem_nil,
      fun _ hmem ↦ absurd hmem List.not_mem_nil, trivial⟩
  have hdoes := SessionWorld.apart_program program _ hfresh
  refine ⟨(SessionWorld.Steps.numbered hsteps).begun, fun n hmem ↦ ?_,
    SessionWorld.Steps.gated hsteps, hdoes.counted.accounted⟩
  rcases hdoes.counted.answered n hmem with hended | hrunning
  · exact hended
  · rw [hdoes.running] at hrunning
    exact absurd hrunning List.not_mem_nil

end Conduit
