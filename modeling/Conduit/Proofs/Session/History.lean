import Conduit.Proofs.Session.Run
import Mathlib.Data.List.Perm.Basic

/-!
# What a history of sessions tells

Each moment of a history tells what had to happen before it (`SessionMoment.Settled`), which is what
the steps demand, and the sessions of a moment become those of every later one (`Steps.evolved`).
Operations are told apart by their numbers: a number is begun once and answered once
(`SessionWorld.Numbered`).
-/

namespace Conduit

/-- Whether an operation registers a listener or takes one out. -/
def SessionCall.relists {L : Type} : SessionCall L → Bool
  | addListener _ | removeListener _ => true
  | _ => false

namespace SessionMoment

variable {L : Type}

/-- Every moment of a history stands in a relation to those before it. -/
def Each (P : SessionMoment L → List (SessionMoment L) → Prop) : List (SessionMoment L) → Prop
  | [] => True
  | moment :: earlier => P moment earlier ∧ Each P earlier

theorem Each.imp {P Q : SessionMoment L → List (SessionMoment L) → Prop}
    {history : List (SessionMoment L)} (himp : ∀ moment earlier, P moment earlier → Q moment earlier)
    (h : Each P history) : Each Q history := by
  induction history with
  | nil => trivial
  | cons moment earlier ih => exact ⟨himp _ _ h.1, ih h.2⟩

/-- What holds of every moment holds of one in the middle, with what happened before it. -/
theorem Each.split {P : SessionMoment L → List (SessionMoment L) → Prop}
    {history : List (SessionMoment L)} (h : Each P history) {later earlier : List (SessionMoment L)}
    {moment : SessionMoment L} (hsplit : history = later ++ moment :: earlier) : P moment earlier := by
  subst hsplit
  induction later with
  | nil => exact h.1
  | cons first later ih => exact ih h.2

/-- It is enough to look at every way to split the history at a moment. -/
theorem Each.of_split {P : SessionMoment L → List (SessionMoment L) → Prop}
    {history : List (SessionMoment L)}
    (h : ∀ later moment earlier, history = later ++ moment :: earlier → P moment earlier) :
    Each P history := by
  induction history with
  | nil => trivial
  | cons first rest ih =>
    exact ⟨h [] first rest rfl, ih fun later moment earlier hrest ↦
      h (first :: later) moment earlier (congrArg (first :: ·) hrest)⟩

/-- A moment of a history has a place in it, with what happened before. -/
theorem Each.of_mem {P : SessionMoment L → List (SessionMoment L) → Prop}
    {history : List (SessionMoment L)} (h : Each P history) {moment : SessionMoment L}
    (hmem : moment ∈ history) :
    ∃ later earlier, history = later ++ moment :: earlier ∧ P moment earlier := by
  obtain ⟨later, earlier, hsplit⟩ := List.append_of_mem hmem
  exact ⟨later, earlier, hsplit, h.split hsplit⟩

/-- The number of the operation that begins at a moment. -/
def begun? (moment : SessionMoment L) : Option Nat :=
  match moment.event with
  | .began _ _ => some moment.call
  | _ => none

/-- The number of the operation that answers at a moment. -/
def ended? (moment : SessionMoment L) : Option Nat :=
  match moment.event with
  | .ended _ _ _ => some moment.call
  | _ => none

theorem call_of_begun? {moment : SessionMoment L} {n : Nat} (h : moment.begun? = some n) :
    moment.call = n := by
  unfold begun? at h
  split at h
  · exact Option.some.inj h
  · contradiction

theorem call_of_ended? {moment : SessionMoment L} {n : Nat} (h : moment.ended? = some n) :
    moment.call = n := by
  unfold ended? at h
  split at h
  · exact Option.some.inj h
  · contradiction

/-- The sessions after what has happened. -/
def latest (history : List (SessionMoment L)) : SessionRef → Session (Registration L) :=
  match history with
  | [] => fun _ ↦ {}
  | moment :: _ => moment.sessions

/-- What a moment tells of those before it. -/
def Settled (moment : SessionMoment L) (earlier : List (SessionMoment L)) : Prop :=
  match moment.event with
  | .moved s _ target => target = .connected →
    ∃ began rest, earlier = began :: rest ∧ began.call = moment.call ∧
      began.event = .began s .onConnect
  | .called (.close s reason) =>
    ∃ moved began rest, earlier = moved :: began :: rest ∧ began.call = moment.call ∧
      moved.event = .moved s .connected .closing ∧
      (began.event = .began s (.close reason) ∨ began.event = .began s (.onClose reason))
  | .called (.notify _ s .connect) =>
    SessionWorld.Did earlier moment.call (.moved s .new .connected)
  | .called (.notify registration s (.close _)) =>
    (moment.sessions s).phase.isEnding = true ∧ (moment.sessions s).Left registration.id
  | .ended s op answer =>
    ∃ began ∈ earlier, began.call = moment.call ∧ began.event = .began s op ∧
      (op.relists = false →
        SessionWorld.Concludes earlier moment.call began.sessions moment.sessions s op answer)
  | _ => True

end SessionMoment

namespace SessionWorld

variable {L U : Type} {w w' : SessionWorld L U} {user : U}

/-! ### The sessions of a moment -/

/-- What a step adds to the history shows the sessions as the step leaves them. -/
theorem Step.moments (h : Step w w') :
    ∃ added, w'.history = added ++ w.history ∧ (∀ moment ∈ added, moment.sessions = w'.sessions) ∧
      (added = [] → w'.sessions = w.sessions) := by
  cases h with
  | user => exact ⟨[], rfl, fun _ hmem ↦ absurd hmem List.not_mem_nil, fun _ ↦ rfl⟩
  | shake | shut =>
    exact ⟨[_, _], rfl, List.forall_mem_cons.2 ⟨rfl, List.forall_mem_singleton.2 rfl⟩, nofun⟩
  | _ => exact ⟨[_], rfl, List.forall_mem_singleton.2 rfl, nofun⟩

/-- The newest moment of the history has the sessions as they are now. -/
theorem Steps.latest (h : Steps (.fresh user) w) : w.sessions = SessionMoment.latest w.history := by
  induction h with
  | refl => rfl
  | tail _ hstep ih =>
    obtain ⟨added, hhistory, hsessions, hsame⟩ := hstep.moments
    rw [hhistory]
    rcases added with - | ⟨moment, added⟩
    · rw [hsame rfl, ih]
      rfl
    · exact (hsessions moment List.mem_cons_self).symm

/-- What the sessions of a moment become. -/
theorem Steps.evolved (h : Steps (.fresh user) w) :
    (∀ moment ∈ w.history, ∀ s, Session.Became (moment.sessions s) (w.sessions s)) ∧
      w.history.Pairwise fun later earlier ↦
        ∀ s, Session.Became (earlier.sessions s) (later.sessions s) := by
  induction h with
  | refl => exact ⟨fun _ hmem ↦ absurd hmem List.not_mem_nil, .nil⟩
  | @tail before after _ hstep ih =>
    obtain ⟨hnow, hpairwise⟩ := ih
    obtain ⟨added, hhistory, hsessions, -⟩ := hstep.moments
    have hearlier : ∀ moment ∈ before.history, ∀ s,
        Session.Became (moment.sessions s) (after.sessions s) :=
      fun moment hmem s ↦ (hnow moment hmem s).tail (hstep.session s)
    rw [hhistory]
    refine ⟨fun moment hmem s ↦ ?_, List.pairwise_append.2 ⟨?_, hpairwise, ?_⟩⟩
    · rcases List.mem_append.1 hmem with hmem | hmem
      · rw [hsessions moment hmem]
      · exact hearlier moment hmem s
    · refine List.pairwise_of_forall_mem_list fun later hlater earlier hmem s ↦ ?_
      rw [hsessions later hlater, hsessions earlier hmem]
    · intro later hlater earlier hmem s
      rw [hsessions later hlater]
      exact hearlier earlier hmem s

/-- A session becomes what it is at a moment out of what it was at any earlier one. -/
theorem Steps.became_of_split (h : Steps (.fresh user) w) {later earlier : List (SessionMoment L)}
    {moment before : SessionMoment L} (hsplit : w.history = later ++ moment :: earlier)
    (hmem : before ∈ earlier) (s : SessionRef) :
    Session.Became (before.sessions s) (moment.sessions s) := by
  have hpairwise := (Steps.evolved h).2
  rw [hsplit] at hpairwise
  exact (List.pairwise_cons.1 (List.pairwise_append.1 hpairwise).2.1).1 before hmem s

/-! ### What a moment tells -/

/-- What a moment of a run tells of those before it is so. -/
theorem Steps.settled (h : Steps (.fresh user) w) :
    SessionMoment.Each SessionMoment.Settled w.history := by
  induction h with
  | refl => trivial
  | @tail before after hsteps hstep ih =>
    have hissued := Steps.issued hsteps (SessionProgram.issued_fresh user)
    cases hstep with
    | user => exact ih
    | begin => exact ⟨trivial, ih⟩
    | connect hbegun hphase =>
      obtain ⟨-, earlier, hhistory⟩ := hbegun
      exact ⟨fun _ ↦ ⟨_, earlier, hhistory, rfl, rfl⟩, ih⟩
    | @shake s op reason hop hbegun hphase =>
      obtain ⟨-, earlier, hhistory⟩ := hbegun
      refine ⟨⟨_, _, earlier, congrArg _ hhistory, rfl, by rw [hphase], ?_⟩, nofun, ih⟩
      exact hop.imp (congrArg _) (congrArg _)
    | shut hphase => exact ⟨trivial, nofun, ih⟩
    | @dismiss s id registration hmem hphase reason =>
      have hown := (hissued s).own _ hmem
      have hleft : ((before.sessions s).without id).Left registration.id := by
        refine ⟨?_, fun hstill ↦ (Session.mem_ids_without.1 hstill).2 hown⟩
        exact hown ▸ (hissued s).lt id (List.mem_map_of_mem (f := Prod.fst) hmem)
      refine ⟨?_, ih⟩
      show ((before.change s ((before.sessions s).without id)).sessions s).phase.isEnding = true ∧
        ((before.change s ((before.sessions s).without id)).sessions s).Left registration.id
      rw [change_sessions_self]
      exact ⟨hphase, hleft⟩
    | @call callback hallows =>
      refine ⟨?_, ih⟩
      cases callback with
      | close => exact hallows.elim
      | notify registration s notice =>
        cases notice with
        | connect => exact hallows
        | close => exact hallows.elim
        | _ => trivial
      | _ => trivial
    | answer => exact ⟨trivial, ih⟩
    | join hbegun =>
      have hprogress := hbegun.inProgress
      exact ⟨⟨_, hprogress.began, rfl, rfl, nofun⟩, ih⟩
    | leave hbegun hmem =>
      have hprogress := hbegun.inProgress
      exact ⟨⟨_, hprogress.began, rfl, rfl, nofun⟩, ih⟩
    | finish hprogress hconcludes =>
      exact ⟨⟨_, hprogress.began, rfl, rfl, fun _ ↦ hconcludes⟩, ih⟩

/-! ### Numbers of operations -/

/-- Every operation has a number of its own, and answers once. -/
structure Numbered (w : SessionWorld L U) : Prop where
  running : ∀ n ∈ w.running, n ≤ w.begun
  calls : ∀ moment ∈ w.history, moment.call ≤ w.begun
  begun : (w.history.filterMap SessionMoment.begun?).Nodup
  ended : (w.running ++ w.history.filterMap SessionMoment.ended?).Nodup

namespace Numbered

theorem headD_le (h : w.Numbered) : w.running.headD 0 ≤ w.begun := by
  have hrunning := h.running
  cases hlist : w.running with
  | nil => exact Nat.zero_le _
  | cons n rest => exact hrunning n (hlist ▸ List.mem_cons_self)

/-- No moment is of an operation that has not begun yet. -/
theorem calls_note (h : w.Numbered) (event : SessionEvent L) :
    ∀ moment ∈ (w.note event).history, moment.call ≤ w.begun := by
  intro moment hmem
  rcases List.mem_cons.1 hmem with rfl | hmem
  · exact h.headD_le
  · exact h.calls moment hmem

/-- A moment that neither begins nor ends an operation leaves the numbering as it is. -/
theorem note (h : w.Numbered) {event : SessionEvent L}
    (hbegun : SessionMoment.begun? ⟨w.running.headD 0, event, w.sessions⟩ = none)
    (hended : SessionMoment.ended? ⟨w.running.headD 0, event, w.sessions⟩ = none) :
    (w.note event).Numbered where
  running := h.running
  calls := h.calls_note event
  begun := by
    rw [SessionWorld.note, List.filterMap_cons_none hbegun]
    exact h.begun
  ended := by
    rw [SessionWorld.note, List.filterMap_cons_none hended]
    exact h.ended

theorem change (h : w.Numbered) (s : SessionRef) (session : Session (Registration L)) :
    (w.change s session).Numbered :=
  ⟨h.running, h.calls, h.begun, h.ended⟩

/-- An operation that begins gets a number that no other one has had. -/
theorem begin (h : w.Numbered) (s : SessionRef) (op : SessionCall L) : (w.begin s op).Numbered where
  running n hmem := by
    rcases List.mem_cons.1 hmem with rfl | hmem
    · exact Nat.le_refl _
    · exact Nat.le_succ_of_le (h.running n hmem)
  calls moment hmem := by
    rcases List.mem_cons.1 hmem with rfl | hmem
    · exact Nat.le_refl _
    · exact Nat.le_succ_of_le (h.calls moment hmem)
  begun := by
    refine List.nodup_cons.2 ⟨fun hmem ↦ ?_, h.begun⟩
    obtain ⟨moment, hmoment, hnumber⟩ := List.mem_filterMap.1 hmem
    have hle := h.calls moment hmoment
    rw [SessionMoment.call_of_begun? hnumber] at hle
    exact Nat.not_succ_le_self _ hle
  ended := by
    refine List.nodup_cons.2 ⟨fun hmem ↦ ?_, h.ended⟩
    rcases List.mem_append.1 hmem with hmem | hmem
    · exact Nat.not_succ_le_self _ (h.running _ hmem)
    · replace hmem : w.begun + 1 ∈ w.history.filterMap SessionMoment.ended? := hmem
      obtain ⟨moment, hmoment, hnumber⟩ := List.mem_filterMap.1 hmem
      have hle := h.calls moment hmoment
      rw [SessionMoment.call_of_ended? hnumber] at hle
      exact Nat.not_succ_le_self _ hle

/-- The operation that ends is the one that began last among those in progress. -/
theorem finish (h : w.Numbered) (hrunning : w.running ≠ []) (s : SessionRef) (op : SessionCall L)
    (answer : op.Answer) : (w.finish s op answer).Numbered where
  running n hmem := h.running n (List.mem_of_mem_tail hmem)
  calls := h.calls_note _
  begun := h.begun
  ended := by
    obtain ⟨n, rest, hlist⟩ := List.exists_cons_of_ne_nil hrunning
    have hended := h.ended
    rw [hlist] at hended
    show (w.running.tail ++
      w.running.headD 0 :: w.history.filterMap SessionMoment.ended?).Nodup
    rw [hlist]
    exact List.perm_middle.nodup_iff.2 hended

end Numbered

/-- **Operations are numbered** in the order in which they begin, in every run. -/
theorem Steps.numbered (h : Steps (.fresh user) w) : w.Numbered := by
  induction h with
  | refl =>
    exact ⟨fun _ hmem ↦ absurd hmem List.not_mem_nil, fun _ hmem ↦ absurd hmem List.not_mem_nil,
      .nil, .nil⟩
  | tail _ hstep ih =>
    cases hstep with
    | user => exact ⟨ih.running, ih.calls, ih.begun, ih.ended⟩
    | begin => exact ih.begin _ _
    | connect => exact (ih.change _ _).note rfl rfl
    | shake => exact ((ih.change _ _).note rfl rfl).note rfl rfl
    | shut => exact ((ih.change _ _).note rfl rfl).note rfl rfl
    | dismiss => exact (ih.change _ _).note rfl rfl
    | call => exact ih.note rfl rfl
    | answer => exact ih.note rfl rfl
    | join hbegun => exact (ih.change _ _).finish hbegun.running _ _ _
    | leave hbegun => exact (ih.change _ _).finish hbegun.running _ _ _
    | finish hprogress => exact ih.finish hprogress.running _ _ _

end SessionWorld

end Conduit
