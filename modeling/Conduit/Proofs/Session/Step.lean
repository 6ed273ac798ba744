import Conduit.Proofs.Lookup
import Conduit.Proofs.Session.Program
import Mathlib.Data.List.Infix
import Mathlib.Logic.Relation

/-!
# What can happen around sessions, step by step

Whatever programs do, the world that they run in changes by the steps of `SessionWorld.Step` alone. A
step is as much as happens without anybody being called back in the middle of it: a session that
starts to close and the call of its protocol that follows are one step, and so are taking a listener
out and telling it. `SessionProgram.steps_run` shows that a run is a sequence of such steps; what is
true of all runs is then proved of one step.

An operation that calls back does not know what its callbacks do, only that they take such steps and
leave the operations in progress as they were (`Leads`). What it needs to remember over a callback is
kept by all steps: the history only grows (`Step.history`), a phase only moves on, and the number of a
listener that is no longer registered does not come back (`Step.session`).
-/

namespace Conduit

namespace SessionPhase

/-- Whether a session has begun to close. -/
def isEnding (phase : SessionPhase) : Bool :=
  phase == closing || phase == closed

/-- No move leads out of the phases in which a session ends. -/
theorem isEnding_of_canMoveTo {source target : SessionPhase} (h : source.canMoveTo target = true)
    (hsource : source.isEnding = true) : target.isEnding = true := by
  revert h hsource
  cases source <;> cases target <;> decide

end SessionPhase

namespace Session

variable {L : Type}

/-- The numbers of the registered listeners. -/
def ids (session : Session L) : List ListenerId :=
  session.listeners.map Prod.fst

/-- The session without the listener of a number. -/
def without (session : Session L) (id : ListenerId) : Session L :=
  { session with listeners := session.listeners.filter fun e ↦ e.1 ≠ id }

/-- The session with one more listener. -/
def joined (session : Session (Registration L)) (listener : L) : Session (Registration L) :=
  let id : ListenerId := ⟨session.nextListener⟩
  { session with
    listeners := session.listeners ++ [(id, ⟨id, listener⟩)]
    nextListener := session.nextListener + 1 }

/-- The listeners are registered under their own numbers, and those numbers were given out. -/
structure Issued (session : Session (Registration L)) : Prop where
  own : ∀ entry ∈ session.listeners, entry.2.id = entry.1
  lt : ∀ id ∈ session.ids, id.number < session.nextListener

theorem mem_ids_without {session : Session L} {id other : ListenerId} :
    other ∈ (session.without id).ids ↔ other ∈ session.ids ∧ other ≠ id := by
  simp only [ids, without, List.mem_map, List.mem_filter, decide_eq_true_eq]
  constructor
  · rintro ⟨entry, ⟨hmem, hne⟩, rfl⟩
    exact ⟨⟨entry, hmem, rfl⟩, hne⟩
  · rintro ⟨⟨entry, hmem, rfl⟩, hne⟩
    exact ⟨entry, ⟨hmem, hne⟩, rfl⟩

theorem ids_joined (session : Session (Registration L)) (listener : L) :
    (session.joined listener).ids = session.ids ++ [⟨session.nextListener⟩] := by
  simp [ids, joined]

theorem without_of_not_mem {session : Session L} {id : ListenerId} (h : id ∉ session.ids) :
    session.without id = session := by
  have hfilter : session.listeners.filter (fun e ↦ e.1 ≠ id) = session.listeners := by
    refine List.filter_eq_self.2 fun entry hmem ↦ ?_
    have hne : entry.1 ≠ id := fun heq ↦ h (heq ▸ List.mem_map_of_mem hmem)
    simpa using hne
  rw [without, hfilter]

theorem not_mem_ids_of_lookup {session : Session L} {id : ListenerId}
    (h : session.listeners.lookup id = none) : id ∉ session.ids :=
  List.lookup_eq_none_iff_not_mem.1 h

/-- The number was given out, and its listener is not registered any more. -/
structure Left (session : Session L) (id : ListenerId) : Prop where
  lt : id.number < session.nextListener
  notMem : id ∉ session.ids

/-- What a step can do to a session. -/
inductive Altered (before : Session (Registration L)) : Session (Registration L) → Prop where
  | same : Altered before before
  | moved {phase : SessionPhase} (h : before.phase.canMoveTo phase = true) :
    Altered before { before with phase }
  | without (id : ListenerId) : Altered before (before.without id)
  | joined (listener : L) : Altered before (before.joined listener)

namespace Altered

variable {before after : Session (Registration L)}

/-- A step leaves the phase as it is or makes one move. -/
theorem phase (h : Altered before after) :
    after.phase = before.phase ∨ before.phase.canMoveTo after.phase = true := by
  cases h with
  | moved h => exact Or.inr h
  | _ => exact Or.inl rfl

/-- A session that has begun to close does not open again. -/
theorem isEnding (h : Altered before after) (hbefore : before.phase.isEnding = true) :
    after.phase.isEnding = true := by
  rcases h.phase with hsame | hmove
  · rw [hsame]
    exact hbefore
  · exact SessionPhase.isEnding_of_canMoveTo hmove hbefore

/-- Numbers stay with their listeners, and new ones come from those not given out yet. -/
theorem issued (h : Altered before after) (hissued : before.Issued) : after.Issued := by
  cases h with
  | same => exact hissued
  | moved => exact ⟨hissued.own, hissued.lt⟩
  | without id =>
    exact ⟨fun entry hmem ↦ hissued.own entry (List.mem_filter.1 hmem).1,
      fun other hmem ↦ hissued.lt other (mem_ids_without.1 hmem).1⟩
  | joined listener =>
    constructor
    · intro entry hmem
      rcases List.mem_append.1 hmem with hmem | hmem
      · exact hissued.own entry hmem
      · obtain rfl := List.mem_singleton.1 hmem
        rfl
    · intro id hmem
      rw [ids_joined] at hmem
      rcases List.mem_append.1 hmem with hmem | hmem
      · exact Nat.lt_succ_of_lt (hissued.lt id hmem)
      · obtain rfl := List.mem_singleton.1 hmem
        exact Nat.lt_succ_self _

theorem nextListener_le (h : Altered before after) : before.nextListener ≤ after.nextListener := by
  cases h with
  | joined listener => exact Nat.le_succ _
  | _ => exact Nat.le_refl _

/-- Who has left does not come back: a new listener gets a number of its own. -/
theorem left (h : Altered before after) {id : ListenerId} (hleft : before.Left id) :
    after.Left id := by
  cases h with
  | same => exact hleft
  | moved => exact ⟨hleft.lt, hleft.notMem⟩
  | without other => exact ⟨hleft.lt, fun hmem ↦ hleft.notMem (mem_ids_without.1 hmem).1⟩
  | joined listener =>
    refine ⟨Nat.lt_succ_of_lt hleft.lt, fun hmem ↦ ?_⟩
    rw [ids_joined] at hmem
    rcases List.mem_append.1 hmem with hmem | hmem
    · exact hleft.notMem hmem
    · obtain rfl := List.mem_singleton.1 hmem
      exact Nat.lt_irrefl _ hleft.lt

end Altered

/-- What can become of a session. -/
abbrev Became : Session (Registration L) → Session (Registration L) → Prop :=
  Relation.ReflTransGen Altered

namespace Became

variable {before after : Session (Registration L)}

/-- A session that has begun to close does not open again, whatever becomes of it. -/
theorem isEnding (h : Became before after) (hbefore : before.phase.isEnding = true) :
    after.phase.isEnding = true := by
  induction h with
  | refl => exact hbefore
  | tail _ haltered ih => exact haltered.isEnding ih

/-- Numbers stay with their listeners, whatever becomes of a session. -/
theorem issued (h : Became before after) (hissued : before.Issued) : after.Issued := by
  induction h with
  | refl => exact hissued
  | tail _ haltered ih => exact haltered.issued ih

theorem nextListener_le (h : Became before after) : before.nextListener ≤ after.nextListener := by
  induction h with
  | refl => exact Nat.le_refl _
  | tail _ haltered ih => exact ih.trans haltered.nextListener_le

/-- A listener that has left does not come back, whatever becomes of the session. -/
theorem left (h : Became before after) {id : ListenerId} (hleft : before.Left id) :
    after.Left id := by
  induction h with
  | refl => exact hleft
  | tail _ haltered ih => exact haltered.left ih

end Became

end Session

namespace SessionWorld

variable {L U : Type}

/-- The world with another state of a session, without a note. -/
def change (w : SessionWorld L U) (s : SessionRef) (session : Session (Registration L)) :
    SessionWorld L U :=
  { w with sessions := Function.update w.sessions s session }

/-- The world once a session has moved to another phase. -/
def enter (w : SessionWorld L U) (s : SessionRef) (phase : SessionPhase) : SessionWorld L U :=
  (w.change s { w.sessions s with phase }).note (.moved s (w.sessions s).phase phase)

/-! ### The operation in progress -/

/-- The innermost operation in progress; `sessions` are the sessions as it found them. -/
structure InProgress (w : SessionWorld L U) (s : SessionRef) (op : SessionCall L)
    (sessions : SessionRef → Session (Registration L)) : Prop where
  running : w.running ≠ []
  began : ⟨w.running.headD 0, .began s op, sessions⟩ ∈ w.history

/-- The innermost operation in progress has only just begun. -/
structure JustBegun (w : SessionWorld L U) (s : SessionRef) (op : SessionCall L) : Prop where
  running : w.running ≠ []
  began : ∃ earlier, w.history = ⟨w.running.headD 0, .began s op, w.sessions⟩ :: earlier

/-- An operation did something, by itself and not through another one. -/
def Did (earlier : List (SessionMoment L)) (call : Nat) (event : SessionEvent L) : Prop :=
  ∃ moment ∈ earlier, moment.call = call ∧ moment.event = event

/-- What has to be so for an operation to give an answer, after what happened earlier. It found the
sessions as they were `before`, and leaves them as they are `after`. Where a listener is registered or
taken out, the answer is part of that step. -/
def Concludes (earlier : List (SessionMoment L)) (call : Nat)
    (before after : SessionRef → Session (Registration L)) (s : SessionRef) :
    (op : SessionCall L) → op.Answer → Prop
  | .close reason, .ok (.noOp phase) =>
    earlier.head? = some ⟨call, .began s (.close reason), before⟩ ∧ after = before ∧
      phase = (before s).phase ∧ phase ≠ .connected
  | .close reason, .ok .handshakeSent =>
    Did earlier call (.called (.close s reason)) ∧
      Did earlier call (.returned (.close s reason) (.ok ()))
  | .close reason, .error fault =>
    Did earlier call (.called (.close s reason)) ∧
      Did earlier call (.returned (.close s reason) (.error fault))
  | .onClose reason, answer =>
    (∀ id ∈ (before s).ids, id ∉ (after s).ids) ∧
      if (before s).phase = .connected then
        Did earlier call (.returned (.close s reason) answer)
      else answer = .ok ()
  | .markClosed, _ => ∀ id ∈ (before s).ids, id ∉ (after s).ids
  | .removeListener _, removed => removed = false
  | .addListener _, _ => False
  | _, _ => True

/-- What has to be so for a callback that is not part of a larger step. -/
def Allows (w : SessionWorld L U) : SessionCallback L → Prop
  | .send s _ | .stream s _ _ => (w.sessions s).phase.isConnected = true
  | .close _ _ | .teardown _ | .notify _ _ (.close _) => False
  | .notify _ s .connect => Did w.history (w.running.headD 0) (.moved s .new .connected)
  | .notify _ _ _ => True

/-! ### Steps -/

/-- What can happen at once. -/
inductive Step : SessionWorld L U → SessionWorld L U → Prop where
  /-- The shared state is changed. -/
  | user (w : SessionWorld L U) (user : U) : Step w { w with user }
  /-- An operation begins. -/
  | begin (w : SessionWorld L U) (s : SessionRef) (op : SessionCall L) : Step w (w.begin s op)
  /-- A new session is connected. -/
  | connect {w : SessionWorld L U} {s : SessionRef} (hbegun : w.JustBegun s .onConnect)
      (hphase : (w.sessions s).phase = .new) : Step w (w.enter s .connected)
  /-- A connected session starts to close, and its protocol is told to send a close frame. -/
  | shake {w : SessionWorld L U} {s : SessionRef} {op : SessionCall L} {reason : CloseReason}
      (hop : op = .close reason ∨ op = .onClose reason) (hbegun : w.JustBegun s op)
      (hphase : (w.sessions s).phase = .connected) :
      Step w ((w.enter s .closing).note (.called (.close s reason)))
  /-- A session is closed for good, and its protocol is told to let go of the connection. -/
  | shut {w : SessionWorld L U} {s : SessionRef} (hphase : (w.sessions s).phase ≠ .closed) :
      Step w ((w.enter s .closed).note (.called (.teardown s)))
  /-- A listener is taken out and told of the close. -/
  | dismiss {w : SessionWorld L U} {s : SessionRef} {id : ListenerId} {registration : Registration L}
      (hmem : (id, registration) ∈ (w.sessions s).listeners)
      (hphase : (w.sessions s).phase.isEnding = true) (reason : CloseReason) :
      Step w ((w.change s ((w.sessions s).without id)).note (.called (.notify registration s (.close reason))))
  /-- A protocol or a listener is called otherwise. -/
  | call {w : SessionWorld L U} {callback : SessionCallback L} (hallows : w.Allows callback) :
      Step w (w.note (.called callback))
  /-- A protocol or a listener has answered. -/
  | answer (w : SessionWorld L U) (callback : SessionCallback L) (answer : Except Fault Unit) :
      Step w (w.note (.returned callback answer))
  /-- A listener is registered. -/
  | join {w : SessionWorld L U} {s : SessionRef} {listener : L}
      (hbegun : w.JustBegun s (.addListener listener)) :
      Step w ((w.change s ((w.sessions s).joined listener)).finish s (.addListener listener)
        ⟨(w.sessions s).nextListener⟩)
  /-- A listener is taken out on demand. -/
  | leave {w : SessionWorld L U} {s : SessionRef} {id : ListenerId}
      (hbegun : w.JustBegun s (.removeListener id)) (hmem : id ∈ (w.sessions s).ids) :
      Step w ((w.change s ((w.sessions s).without id)).finish s (.removeListener id) true)
  /-- An operation answers otherwise. -/
  | finish {w : SessionWorld L U} {s : SessionRef} {op : SessionCall L} {answer : op.Answer}
      {sessions : SessionRef → Session (Registration L)} (hprogress : w.InProgress s op sessions)
      (hconcludes : Concludes w.history (w.running.headD 0) sessions w.sessions s op answer) :
      Step w (w.finish s op answer)

/-- What can happen in the course of time. -/
abbrev Steps : SessionWorld L U → SessionWorld L U → Prop :=
  Relation.ReflTransGen Step

/-! ### What a step does to the sessions and to the history -/

variable {w w' : SessionWorld L U}

theorem change_sessions_self (w : SessionWorld L U) (s : SessionRef)
    (session : Session (Registration L)) : (w.change s session).sessions s = session :=
  Function.update_self ..

theorem change_sessions_ne (w : SessionWorld L U) {s r : SessionRef} (h : r ≠ s)
    (session : Session (Registration L)) : (w.change s session).sessions r = w.sessions r :=
  Function.update_of_ne h ..

/-- What is done to one session leaves the others as they are. -/
theorem altered_change {s r : SessionRef} {session : Session (Registration L)}
    (h : Session.Altered (w.sessions s) session) :
    Session.Altered (w.sessions r) ((w.change s session).sessions r) := by
  by_cases hr : r = s
  · subst hr
    rw [change_sessions_self]
    exact h
  · rw [change_sessions_ne w hr]
    exact .same

/-- **What a step does to a session**. -/
theorem Step.session (h : Step w w') (s : SessionRef) :
    Session.Altered (w.sessions s) (w'.sessions s) := by
  cases h with
  | user | begin | call | answer | finish => exact .same
  | connect hbegun hphase => exact altered_change (.moved (by rw [hphase]; rfl))
  | shake hop hbegun hphase => exact altered_change (.moved (by rw [hphase]; rfl))
  | @shut r hphase =>
    refine altered_change (.moved ?_)
    cases hr : (w.sessions r).phase with
    | closed => exact absurd hr hphase
    | _ => rfl
  | dismiss hmem hphase => exact altered_change (.without _)
  | join hbegun => exact altered_change (.joined _)
  | leave hbegun hmem => exact altered_change (.without _)

theorem Step.history (h : Step w w') : w.history <:+ w'.history := by
  cases h with
  | user => exact List.suffix_rfl
  | shake | shut => exact ⟨[_, _], rfl⟩
  | _ => exact ⟨[_], rfl⟩

/-- The history of a run only grows. -/
theorem Steps.history (h : Steps w w') : w.history <:+ w'.history := by
  induction h with
  | refl => exact List.suffix_rfl
  | tail _ hstep ih => exact ih.trans hstep.history

/-- What becomes of a session in a run comes of single changes. -/
theorem Steps.became (h : Steps w w') (s : SessionRef) :
    Session.Became (w.sessions s) (w'.sessions s) := by
  induction h with
  | refl => exact .refl
  | tail _ hstep ih => exact ih.tail (hstep.session s)

/-- The listeners of all sessions are registered under their own numbers. -/
def Issued (w : SessionWorld L U) : Prop :=
  ∀ s, (w.sessions s).Issued

theorem Steps.issued (h : Steps w w') (hissued : w.Issued) : w'.Issued :=
  fun s ↦ (Steps.became h s).issued (hissued s)

end SessionWorld

end Conduit
