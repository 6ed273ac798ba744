import Conduit.Proofs.Session.History
import Mathlib.Data.List.Nodup

/-!
# Every listener hears of the close once

A listener that is registered has one of three fates: it stays, it is told of the close, or it is
taken out on demand. The history tells which, and at every moment the numbers given out so far are
just those three kinds of numbers, each once (`Session.Ledger`). What a drain owes to the listeners
that it finds, whoever delivers it, is read off the ledgers at its two ends
(`SessionProgram.drains_run`).
-/

namespace Conduit

/-- Whether an operation tells the listeners of the close. -/
def SessionCall.drains {L : Type} : SessionCall L → Bool
  | onClose _ | markClosed => true
  | _ => false

/-- A drain answers apart from the last change that it makes. -/
theorem SessionCall.relists_of_drains {L : Type} {op : SessionCall L} (h : op.drains = true) :
    op.relists = false := by
  cases op with
  | addListener | removeListener => contradiction
  | _ => rfl

namespace SessionEvent

variable {L : Type}

/-- The listener of a session that is told of the close. -/
def dismissed? (s : SessionRef) : SessionEvent L → Option ListenerId
  | .called (.notify registration r (.close _)) => if r = s then some registration.id else none
  | _ => none

/-- The listener of a session that was taken out on demand. -/
def taken? (s : SessionRef) : SessionEvent L → Option ListenerId
  | .ended r (.removeListener id) true => if r = s then some id else none
  | _ => none

/-- Whether a listener was registered with a session. -/
def joins (s : SessionRef) : SessionEvent L → Bool
  | .ended r (.addListener _) _ => r = s
  | _ => false

end SessionEvent

namespace SessionMoment

variable {L : Type} {s : SessionRef} {moment : SessionMoment L}

/-- The listeners of a session that were told of the close. -/
def dismissals (s : SessionRef) (history : List (SessionMoment L)) : List ListenerId :=
  history.filterMap fun moment ↦ moment.event.dismissed? s

/-- The listeners of a session that were taken out on demand. -/
def removals (s : SessionRef) (history : List (SessionMoment L)) : List ListenerId :=
  history.filterMap fun moment ↦ moment.event.taken? s

/-- The number of listeners that were registered with a session. -/
def joinings (s : SessionRef) (history : List (SessionMoment L)) : Nat :=
  history.countP fun moment ↦ moment.event.joins s

theorem dismissals_cons (moment : SessionMoment L) (history : List (SessionMoment L)) :
    dismissals s (moment :: history) =
      (moment.event.dismissed? s).toList ++ dismissals s history := by
  rw [dismissals, List.filterMap_cons]
  cases moment.event.dismissed? s <;> rfl

theorem removals_cons (moment : SessionMoment L) (history : List (SessionMoment L)) :
    removals s (moment :: history) = (moment.event.taken? s).toList ++ removals s history := by
  rw [removals, List.filterMap_cons]
  cases moment.event.taken? s <;> rfl

theorem joinings_cons (moment : SessionMoment L) (history : List (SessionMoment L)) :
    joinings s (moment :: history) = joinings s history + (moment.event.joins s).toNat := by
  rw [joinings, List.countP_cons]
  cases moment.event.joins s <;> rfl

theorem dismissals_append (later earlier : List (SessionMoment L)) :
    dismissals s (later ++ earlier) = dismissals s later ++ dismissals s earlier :=
  List.filterMap_append

theorem removals_append (later earlier : List (SessionMoment L)) :
    removals s (later ++ earlier) = removals s later ++ removals s earlier :=
  List.filterMap_append

/-- A listener is told of the close while its session is closing or closed. -/
theorem Settled.isEnding_of_dismissed {earlier : List (SessionMoment L)}
    (h : moment.Settled earlier) {id : ListenerId} (hdismissed : moment.event.dismissed? s = some id) :
    (moment.sessions s).phase.isEnding = true := by
  unfold SessionEvent.dismissed? at hdismissed
  split at hdismissed
  · rename_i registration r reason hevent
    split at hdismissed
    · rename_i hr
      rw [Settled, hevent] at h
      exact hr ▸ h.1
    · contradiction
  · contradiction

end SessionMoment

namespace Session

open SessionMoment

variable {L : Type} {s : SessionRef} {session : Session (Registration L)}
  {history : List (SessionMoment L)} {moment : SessionMoment L} {id : ListenerId}

/-- Every number that a session has given out belongs to a listener that is registered, was told of the
close, or was taken out. -/
structure Ledger (s : SessionRef) (session : Session (Registration L))
    (history : List (SessionMoment L)) : Prop where
  next : session.nextListener = joinings s history + 1
  perm : (session.ids ++ (dismissals s history ++ removals s history)).Perm
    ((List.range' 1 (joinings s history)).map ListenerId.mk)

theorem ids_without (session : Session L) (id : ListenerId) :
    (session.without id).ids = session.ids.filter (· ≠ id) := by
  rw [ids, ids, List.filter_map]
  rfl

namespace Ledger

theorem new : Ledger s (L := L) {} [] :=
  ⟨rfl, .nil⟩

/-- No listener is told of the close twice, or after it was taken out. -/
theorem nodup (h : Ledger s session history) :
    (session.ids ++ (dismissals s history ++ removals s history)).Nodup :=
  h.perm.nodup_iff.2 ((List.nodup_range').map fun _ _ heq ↦ congrArg ListenerId.number heq)

/-- The numbers that have an owner are those that were given out. -/
theorem mem_iff (h : Ledger s session history) :
    id ∈ session.ids ++ (dismissals s history ++ removals s history) ↔
      0 < id.number ∧ id.number < session.nextListener := by
  rw [h.perm.mem_iff, h.next]
  constructor
  · intro hmem
    obtain ⟨number, hnumber, rfl⟩ := List.mem_map.1 hmem
    have hrange := List.mem_range'_1.1 hnumber
    exact ⟨hrange.1, by simpa only [Nat.add_comm] using hrange.2⟩
  · rintro ⟨hpos, hlt⟩
    refine List.mem_map.2 ⟨id.number, List.mem_range'_1.2 ⟨hpos, ?_⟩, rfl⟩
    omega

/-- Who was told of the close, or taken out, is not registered. -/
theorem not_mem_ids (h : Ledger s session history)
    (hmem : id ∈ dismissals s history ++ removals s history) : id ∉ session.ids :=
  fun hids ↦ (List.nodup_append.1 h.nodup).2.2 id hids id hmem rfl

/-! ### One moment more -/

/-- A moment at which nobody comes or goes leaves the ledger as it is. -/
theorem other_iff (hdismissed : moment.event.dismissed? s = none)
    (htaken : moment.event.taken? s = none) (hjoins : moment.event.joins s = false) :
    Ledger s session (moment :: history) ↔ Ledger s session history := by
  have hdismissals : dismissals s (moment :: history) = dismissals s history := by
    rw [dismissals_cons, hdismissed]
    rfl
  have hremovals : removals s (moment :: history) = removals s history := by
    rw [removals_cons, htaken]
    rfl
  have hjoinings : joinings s (moment :: history) = joinings s history := by
    rw [joinings_cons, hjoins]
    rfl
  constructor
  · rintro ⟨hnext, hperm⟩
    rw [hjoinings] at hnext
    rw [hdismissals, hremovals, hjoinings] at hperm
    exact ⟨hnext, hperm⟩
  · rintro ⟨hnext, hperm⟩
    rw [← hjoinings] at hnext
    rw [← hdismissals, ← hremovals, ← hjoinings] at hperm
    exact ⟨hnext, hperm⟩

theorem perm_without (h : Ledger s session history) (hmem : id ∈ session.ids) :
    session.ids.Perm (id :: (session.without id).ids) := by
  have hnodup : session.ids.Nodup := (List.nodup_append.1 h.nodup).1
  have herase : session.ids.erase id = (session.without id).ids := by
    rw [ids_without, hnodup.erase_eq_filter]
    exact List.filter_congr fun other _ ↦ by simp [bne, Bool.beq_eq_decide_eq]
  rw [← herase]
  exact List.perm_cons_erase hmem

/-- A listener that is told of the close is entered as told. -/
theorem dismiss (h : Ledger s session history) (hmem : id ∈ session.ids)
    (hdismissed : moment.event.dismissed? s = some id) (htaken : moment.event.taken? s = none)
    (hjoins : moment.event.joins s = false) :
    Ledger s (session.without id) (moment :: history) := by
  constructor
  · rw [joinings_cons, hjoins]
    exact h.next
  · rw [dismissals_cons, removals_cons, joinings_cons, hdismissed, htaken, hjoins]
    exact List.perm_middle.trans (((h.perm_without hmem).append_right _).symm.trans h.perm)

/-- A listener that is taken out on demand is entered as taken out. -/
theorem leave (h : Ledger s session history) (hmem : id ∈ session.ids)
    (hdismissed : moment.event.dismissed? s = none) (htaken : moment.event.taken? s = some id)
    (hjoins : moment.event.joins s = false) :
    Ledger s (session.without id) (moment :: history) := by
  constructor
  · rw [joinings_cons, hjoins]
    exact h.next
  · rw [dismissals_cons, removals_cons, joinings_cons, hdismissed, htaken, hjoins]
    refine (List.perm_middle.append_left _).trans (List.perm_middle.trans ?_)
    exact ((h.perm_without hmem).append_right _).symm.trans h.perm

/-- A listener that is registered is the next one. -/
theorem join (h : Ledger s session history) (listener : L)
    (hdismissed : moment.event.dismissed? s = none) (htaken : moment.event.taken? s = none)
    (hjoins : moment.event.joins s = true) :
    Ledger s (session.joined listener) (moment :: history) := by
  constructor
  · rw [joinings_cons, hjoins]
    exact congrArg (· + 1) h.next
  · rw [dismissals_cons, removals_cons, joinings_cons, hdismissed, htaken, hjoins, ids_joined,
      h.next, Bool.toNat_true, List.range'_1_concat, List.map_append, List.append_assoc,
      Nat.add_comm 1]
    exact ((List.perm_append_comm.append_left _).trans (.of_eq (List.append_assoc ..).symm)).trans
      (h.perm.append_right _)

theorem move (h : Ledger s session history) (phase : SessionPhase) :
    Ledger s { session with phase } history :=
  ⟨h.next, h.perm⟩

/-! ### Two moments -/

variable {first last : Session (Registration L)} {during before : List (SessionMoment L)}

/-- Who was registered, and is not any more, was told in between or taken out. -/
theorem told (hfirst : Ledger s first before) (hlast : Ledger s last (during ++ before))
    (hle : first.nextListener ≤ last.nextListener) (hgone : ∀ id ∈ first.ids, id ∉ last.ids) :
    ∀ id ∈ first.ids, id ∉ removals s during → id ∈ dismissals s during := by
  intro id hmem hstayed
  have hgiven := hfirst.mem_iff.1 (List.mem_append_left _ hmem)
  have hkinds := hlast.mem_iff.2 ⟨hgiven.1, hgiven.2.trans_le hle⟩
  have hnot : id ∉ dismissals s before ++ removals s before := fun hbefore ↦
    hfirst.not_mem_ids hbefore hmem
  rw [dismissals_append, removals_append] at hkinds
  simp only [List.mem_append] at hkinds hnot
  tauto

/-- If nobody was registered in between, and all the others are gone, nobody is registered. -/
theorem drained (hfirst : Ledger s first before) (hlast : Ledger s last (during ++ before))
    (hgone : ∀ id ∈ first.ids, id ∉ last.ids) (hjoinings : joinings s during = 0) :
    last.listeners = [] := by
  refine List.map_eq_nil_iff.1 (List.eq_nil_iff_forall_not_mem.2 fun id (hmem : id ∈ last.ids) ↦ ?_)
  have hgiven := hlast.mem_iff.1 (List.mem_append_left _ hmem)
  have hsame : last.nextListener = first.nextListener := by
    rw [hlast.next, hfirst.next, joinings, List.countP_append]
    exact congrArg (· + 1) ((congrArg (· + _) hjoinings).trans (Nat.zero_add _))
  rcases List.mem_append.1 (hfirst.mem_iff.2 (hsame ▸ hgiven)) with hids | hbefore
  · exact hgone id hids hmem
  · refine hlast.not_mem_ids ?_ hmem
    rw [dismissals_append, removals_append]
    simp only [List.mem_append] at hbefore ⊢
    tauto

end Ledger

end Session

namespace SessionEvent

variable {L : Type}

/-- An event that leaves the listeners of every session as they are. -/
structure Keeps (event : SessionEvent L) : Prop where
  dismissed (s : SessionRef) : event.dismissed? s = none
  taken (s : SessionRef) : event.taken? s = none
  joins (s : SessionRef) : event.joins s = false

/-- The answer of a drain leaves the listeners as they are. -/
theorem Keeps.ended {s : SessionRef} {op : SessionCall L} (h : op.drains = true)
    (answer : op.Answer) : (SessionEvent.ended s op answer).Keeps := by
  cases op with
  | onClose | markClosed => exact ⟨fun _ ↦ rfl, fun _ ↦ rfl, fun _ ↦ rfl⟩
  | _ => contradiction

end SessionEvent

namespace SessionWorld

open SessionMoment Session

variable {L U : Type} {w w' : SessionWorld L U} {s : SessionRef} {user : U}

/-- The ledgers of all sessions are in order, now and at every moment. -/
structure Kept (w : SessionWorld L U) : Prop where
  now (s : SessionRef) : Ledger s (w.sessions s) w.history
  always : Each (fun moment earlier ↦ ∀ s, Ledger s (moment.sessions s) (moment :: earlier)) w.history

namespace Kept

/-- The ledgers stay in order while nobody comes or goes. -/
theorem note (h : w.Kept) {event : SessionEvent L} (hkeeps : event.Keeps) : (w.note event).Kept := by
  have hnow : ∀ s, Ledger s (w.sessions s) (w.note event).history := fun s ↦
    (Ledger.other_iff (hkeeps.dismissed s) (hkeeps.taken s) (hkeeps.joins s)).2 (h.now s)
  exact ⟨hnow, hnow, h.always⟩

theorem enter (h : w.Kept) (s : SessionRef) (phase : SessionPhase) : (w.enter s phase).Kept := by
  have hchange : (w.change s { w.sessions s with phase }).Kept := by
    refine ⟨fun r ↦ ?_, h.always⟩
    by_cases hr : r = s
    · subst hr
      rw [change_sessions_self]
      exact (h.now r).move phase
    · rw [change_sessions_ne w hr]
      exact h.now r
  exact hchange.note ⟨fun _ ↦ rfl, fun _ ↦ rfl, fun _ ↦ rfl⟩

/-- What concerns the listeners of one session leaves those of the others as they are. -/
theorem change_note (h : w.Kept) {session : Session (Registration L)} (event : SessionEvent L)
    (hself : Ledger s session ((w.change s session).note event).history)
    (hothers : ∀ r, r ≠ s → event.dismissed? r = none ∧ event.taken? r = none ∧ event.joins r = false) :
    ((w.change s session).note event).Kept := by
  have hnow : ∀ r, Ledger r ((w.change s session).sessions r)
      ((w.change s session).note event).history := by
    intro r
    by_cases hr : r = s
    · subst hr
      rw [change_sessions_self]
      exact hself
    · obtain ⟨hdismissed, htaken, hjoins⟩ := hothers r hr
      rw [change_sessions_ne w hr]
      exact (Ledger.other_iff hdismissed htaken hjoins).2 (h.now r)
  exact ⟨hnow, hnow, h.always⟩

/-- Where the running operations are changed, the ledgers are not. -/
theorem finish (h : w.Kept) {op : SessionCall L} {answer : op.Answer}
    (hkeeps : (SessionEvent.ended s op answer).Keeps) : (w.finish s op answer).Kept :=
  have hnote := h.note hkeeps
  ⟨hnote.now, hnote.always⟩

end Kept

/-- **Every step keeps the ledgers**. -/
theorem Step.kept (h : Step w w') (hissued : w.Issued) (hkept : w.Kept) : w'.Kept := by
  cases h with
  | user => exact ⟨hkept.now, hkept.always⟩
  | begin s op =>
    have hbegun : ({ w with begun := w.begun + 1, running := (w.begun + 1) :: w.running } :
        SessionWorld L U).Kept := ⟨hkept.now, hkept.always⟩
    exact hbegun.note ⟨fun _ ↦ rfl, fun _ ↦ rfl, fun _ ↦ rfl⟩
  | connect => exact hkept.enter _ _
  | shake => exact (hkept.enter _ _).note ⟨fun _ ↦ rfl, fun _ ↦ rfl, fun _ ↦ rfl⟩
  | shut => exact (hkept.enter _ _).note ⟨fun _ ↦ rfl, fun _ ↦ rfl, fun _ ↦ rfl⟩
  | @dismiss s id registration hmem hphase reason =>
    have hown := (hissued s).own _ hmem
    refine hkept.change_note _ ?_ fun r hr ↦ ⟨if_neg (Ne.symm hr), rfl, rfl⟩
    refine (hkept.now s).dismiss (List.mem_map_of_mem hmem) ?_ rfl rfl
    exact (if_pos rfl).trans (congrArg some hown)
  | @call callback hallows =>
    refine hkept.note ⟨fun s ↦ ?_, fun _ ↦ rfl, fun _ ↦ rfl⟩
    cases callback with
    | notify registration r notice =>
      cases notice with
      | close => exact hallows.elim
      | _ => rfl
    | _ => rfl
  | answer => exact hkept.note ⟨fun _ ↦ rfl, fun _ ↦ rfl, fun _ ↦ rfl⟩
  | @join s listener hbegun =>
    have hjoined := hkept.change_note
      (.ended s (.addListener listener) ⟨(w.sessions s).nextListener⟩)
      ((hkept.now s).join listener rfl rfl (decide_eq_true rfl))
      fun r hr ↦ ⟨rfl, rfl, decide_eq_false (Ne.symm hr)⟩
    exact ⟨hjoined.now, hjoined.always⟩
  | @leave s id hbegun hmem =>
    have hleft := hkept.change_note (.ended s (.removeListener id) true)
      ((hkept.now s).leave hmem rfl (if_pos rfl) rfl) fun r hr ↦ ⟨rfl, if_neg (Ne.symm hr), rfl⟩
    exact ⟨hleft.now, hleft.always⟩
  | @finish s op answer sessions hprogress hconcludes =>
    refine hkept.finish ⟨fun _ ↦ rfl, fun r ↦ ?_, fun r ↦ ?_⟩
    · cases op with
      | removeListener id =>
        obtain rfl : answer = false := hconcludes
        rfl
      | _ => rfl
    · cases op with
      | addListener listener => exact hconcludes.elim
      | _ => rfl

/-- The ledgers are in order in every run. -/
theorem Steps.kept (h : Steps (.fresh user) w) : w.Kept := by
  induction h with
  | refl => exact ⟨fun _ ↦ .new, trivial⟩
  | tail hsteps hstep ih =>
    exact hstep.kept (Steps.issued hsteps (SessionProgram.issued_fresh user)) ih

/-! ### What listeners are owed -/

/-- What the listeners of a session are owed whatever programs do. -/
structure Drains (w : SessionWorld L U) (s : SessionRef) : Prop where
  /-- Every operation has a number of its own. -/
  numbers : (w.history.filterMap begun?).Nodup
  /-- No listener is told of the close twice. -/
  once : (dismissals s w.history).Nodup
  /-- From when a listener is told, the session is closing or closed and the listener is not
  registered. -/
  during : Each (fun moment earlier ↦ ∀ id ∈ dismissals s (moment :: earlier),
    (moment.sessions s).phase.isEnding = true ∧ id ∉ (moment.sessions s).ids) w.history
  /-- When a drain answers, whoever was registered as it began has been told since, unless taken out on
  demand. If nobody was registered since, nobody is registered now. -/
  told : Each (fun ended earlier ↦ ∀ op answer, op.drains = true → ended.event = .ended s op answer →
    ∃ during began before, earlier = during ++ began :: before ∧ began.call = ended.call ∧
      began.event = .began s op ∧
      (∀ id ∈ (began.sessions s).ids, id ∉ removals s during → id ∈ dismissals s during) ∧
      (joinings s during = 0 → (ended.sessions s).listeners = [])) w.history
  /-- An `onClose` answers as the protocol did, if it found the session connected. -/
  echoed : Each (fun ended earlier ↦ ∀ reason answer,
    ended.event = .ended s (.onClose reason) answer →
      ∃ began ∈ earlier, began.call = ended.call ∧ began.event = .began s (.onClose reason) ∧
        if (began.sessions s).phase = .connected then
          Did earlier ended.call (.returned (.close s reason) answer)
        else answer = .ok ()) w.history

/-- Who was registered as a drain began is not any more when it answers. -/
theorem not_mem_of_concludes {earlier : List (SessionMoment L)} {call : Nat}
    {before after : SessionRef → Session (Registration L)} {op : SessionCall L} {answer : op.Answer}
    (hdrains : op.drains = true) (h : Concludes earlier call before after s op answer) :
    ∀ id ∈ (before s).ids, id ∉ (after s).ids := by
  cases op with
  | onClose => exact h.1
  | markClosed => exact h
  | _ => contradiction

/-- Who was told of the close is not registered any more, and the session has begun to close. -/
theorem Steps.during (h : Steps (.fresh user) w) (s : SessionRef) :
    Each (fun moment earlier ↦ ∀ id ∈ dismissals s (moment :: earlier),
      (moment.sessions s).phase.isEnding = true ∧ id ∉ (moment.sessions s).ids) w.history := by
  refine Each.of_split fun later moment earlier hsplit id hmem ↦ ?_
  have hledger := (Steps.kept h).always.split hsplit s
  refine ⟨?_, hledger.not_mem_ids (List.mem_append_left _ hmem)⟩
  -- The session was closing as the listener was told, and a session that is closing remains so.
  obtain ⟨told, htold, hdismissed⟩ := List.mem_filterMap.1 hmem
  have hending : (told.sessions s).phase.isEnding = true := by
    have hmem : told ∈ w.history := hsplit ▸ List.mem_append_right _ htold
    obtain ⟨_, _, _, hsettled⟩ := (Steps.settled h).of_mem hmem
    exact hsettled.isEnding_of_dismissed hdismissed
  rcases List.mem_cons.1 htold with rfl | htold
  · exact hending
  · exact (Steps.became_of_split h hsplit htold s).isEnding hending

/-- A drain that answers has told all whom it found, except who was taken out meanwhile. -/
theorem Steps.told (h : Steps (.fresh user) w) (s : SessionRef) :
    Each (fun ended earlier ↦ ∀ op answer, op.drains = true → ended.event = .ended s op answer →
      ∃ during began before, earlier = during ++ began :: before ∧ began.call = ended.call ∧
        began.event = .began s op ∧
        (∀ id ∈ (began.sessions s).ids, id ∉ removals s during → id ∈ dismissals s during) ∧
        (joinings s during = 0 → (ended.sessions s).listeners = [])) w.history := by
  refine Each.of_split fun later ended earlier hsplit op answer hdrains hevent ↦ ?_
  have hsettled := (Steps.settled h).split hsplit
  rw [Settled, hevent] at hsettled
  obtain ⟨began, hmem, hcall, hbegan, hconcludes⟩ := hsettled
  have hgone := not_mem_of_concludes hdrains (hconcludes (op.relists_of_drains hdrains))
  have hbecame := Steps.became_of_split h hsplit hmem s
  obtain ⟨during, before, rfl⟩ := List.append_of_mem hmem
  have hfirst : Ledger s (began.sessions s) (began :: before) :=
    (Steps.kept h).always.split (by rw [hsplit, ← List.cons_append, ← List.append_assoc]) s
  have hkeeps : ended.event.Keeps := hevent ▸ .ended hdrains answer
  have hlast := (Ledger.other_iff (hkeeps.dismissed s) (hkeeps.taken s) (hkeeps.joins s)).1
    ((Steps.kept h).always.split hsplit s)
  exact ⟨during, began, before, rfl, hcall, hbegan, hfirst.told hlast hbecame.nextListener_le hgone,
    hfirst.drained hlast hgone⟩

/-- What the protocol said to the close frame is the answer of the operation that had it sent. -/
theorem Steps.echoed (h : Steps (.fresh user) w) (s : SessionRef) :
    Each (fun ended earlier ↦ ∀ reason answer,
      ended.event = .ended s (.onClose reason) answer →
        ∃ began ∈ earlier, began.call = ended.call ∧ began.event = .began s (.onClose reason) ∧
          if (began.sessions s).phase = .connected then
            Did earlier ended.call (.returned (.close s reason) answer)
          else answer = .ok ()) w.history := by
  refine (Steps.settled h).imp fun ended earlier hsettled reason answer hevent ↦ ?_
  rw [Settled, hevent] at hsettled
  obtain ⟨began, hmem, hcall, hbegan, hconcludes⟩ := hsettled
  exact ⟨began, hmem, hcall, hbegan, (hconcludes rfl).2⟩

theorem Steps.drains (h : Steps (.fresh user) w) (s : SessionRef) : w.Drains s where
  numbers := (Steps.numbered h).begun
  once := (List.nodup_append.1 (List.nodup_append.1 ((Steps.kept h).now s).nodup).2.1).1
  during := Steps.during h s
  told := Steps.told h s
  echoed := Steps.echoed h s

end SessionWorld

/-- **Every listener hears of the close once.** Whatever programs do with new sessions, and whatever
their protocols and listeners call back while listeners are told, no listener is told twice, and when
a drain is over all those it found have been told, by itself or by another one within it. -/
theorem SessionProgram.drains_run {L U : Type} (user : U) (program : SessionProgram L U)
    (s : SessionRef) : (program.run (.fresh user)).2.Drains s :=
  SessionWorld.Steps.drains (program.steps_run user) s

end Conduit
