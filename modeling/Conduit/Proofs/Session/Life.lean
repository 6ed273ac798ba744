import Conduit.Proofs.Session.History
import Mathlib.Data.List.Chain

/-!
# The life of a session

Whatever is done to a session, and by whomever, it goes through its phases in one direction, tells its
protocol to close when it starts to close, and to let go of the connection when it is closed for good
(`SessionProgram.lives_run`). The moves of a session and those two calls, in the order in which they
happen, leave little choice: what they are is said by `Life`, one constructor for each way to go on,
and everything about their number follows from it.
-/

namespace Conduit

namespace SessionPhase

/-- The place of a phase in the order of the phases. -/
def rank (phase : SessionPhase) : Nat :=
  all.idxOf phase

/-- No move leads backwards. -/
theorem rank_le_of_canMoveTo {source target : SessionPhase} (h : source.canMoveTo target = true) :
    source.rank ≤ target.rank := by
  revert h
  cases source <;> cases target <;> decide

end SessionPhase

/-- What the life of a session consists of. -/
inductive LifeEvent where
  /-- The session moved from one phase to another. -/
  | moved (source target : SessionPhase)
  /-- Its protocol is told to send a close frame. -/
  | closeSent
  /-- Its protocol is told to let go of the connection. -/
  | tornDown
  deriving DecidableEq

/-- The life of a session that has come to a phase, the last event first. -/
inductive Life : SessionPhase → List LifeEvent → Prop where
  | new : Life .new []
  | connected : Life .connected [.moved .new .connected]
  | closing : Life .closing [.closeSent, .moved .connected .closing, .moved .new .connected]
  | closed {phase : SessionPhase} {life : List LifeEvent} (h : Life phase life)
      (hphase : phase ≠ .closed) : Life .closed (.tornDown :: .moved phase .closed :: life)

/-- What an event means for the life of a session. -/
def SessionEvent.life? {L : Type} (s : SessionRef) : SessionEvent L → Option LifeEvent
  | .moved r source target => if r = s then some (.moved source target) else none
  | .called (.close r _) => if r = s then some .closeSent else none
  | .called (.teardown r) => if r = s then some .tornDown else none
  | _ => none

/-- Whether a `close` of a session was answered otherwise than by saying that nothing was done. -/
def SessionEvent.isWonClose {L : Type} (s : SessionRef) : SessionEvent L → Bool
  | .ended _ (.close _) (.ok (.noOp _)) => false
  | .ended r (.close _) _ => r = s
  | _ => false

namespace Life

variable {phase : SessionPhase} {life : List LifeEvent}

/-- A session is connected at most once. -/
theorem count_moved_connected_le (h : Life phase life) :
    life.count (.moved .new .connected) ≤ 1 := by
  cases h with
  | closed h hphase => cases h <;> simp_all
  | _ => decide

/-- A protocol is told to send a close frame at most once. -/
theorem count_closeSent_le (h : Life phase life) : life.count .closeSent ≤ 1 := by
  cases h with
  | closed h hphase => cases h <;> simp_all
  | _ => decide

/-- It is told so as often as the session moves from connected to closing. -/
theorem count_closeSent_eq (h : Life phase life) :
    life.count .closeSent = life.count (.moved .connected .closing) := by
  cases h with
  | closed h hphase => cases h <;> simp_all
  | _ => decide

/-- A protocol is told to let go of the connection once the session is closed, and just once. -/
theorem count_tornDown_eq (h : Life phase life) :
    life.count .tornDown = if phase = .closed then 1 else 0 := by
  cases h with
  | closed h hphase => cases h <;> simp_all
  | _ => decide

end Life

namespace SessionWorld

variable {L U : Type} {w w' : SessionWorld L U} {user : U} {s r : SessionRef}

/-- The life of a session so far, the last event first. -/
def life (w : SessionWorld L U) (s : SessionRef) : List LifeEvent :=
  w.history.filterMap fun moment ↦ moment.event.life? s

/-- What happens is put before the life so far, if it means anything for it. -/
theorem life_note (w : SessionWorld L U) (event : SessionEvent L) (s : SessionRef) :
    (w.note event).life s = (event.life? s).toList ++ w.life s := by
  rw [life, note, List.filterMap_cons]
  cases event.life? s <;> rfl

/-- A move is part of the life of the session that moves. -/
theorem life_enter_self (w : SessionWorld L U) (s : SessionRef) (phase : SessionPhase) :
    (w.enter s phase).life s = .moved (w.sessions s).phase phase :: w.life s := by
  rw [enter, life_note, SessionEvent.life?, if_pos rfl]
  rfl

theorem life_enter_ne (h : s ≠ r) (phase : SessionPhase) : (w.enter r phase).life s = w.life s := by
  rw [enter, life_note, SessionEvent.life?, if_neg h.symm]
  rfl

theorem phase_enter_self (w : SessionWorld L U) (s : SessionRef) (phase : SessionPhase) :
    ((w.enter s phase).sessions s).phase = phase := by
  show ((w.change s _).sessions s).phase = phase
  rw [change_sessions_self]

theorem sessions_enter_ne (h : s ≠ r) (phase : SessionPhase) :
    (w.enter r phase).sessions s = w.sessions s :=
  change_sessions_ne w h _

theorem phase_change {session : Session (Registration L)}
    (h : session.phase = (w.sessions r).phase) :
    ((w.change r session).sessions s).phase = (w.sessions s).phase := by
  by_cases hs : s = r
  · subst hs
    rw [change_sessions_self, h]
  · rw [change_sessions_ne w hs]

/-- A move of another session is no event of the life of this one. -/
theorem life_enter_of_ne (h : s ≠ r) (phase : SessionPhase)
    (hlife : Life (w.sessions s).phase (w.life s)) :
    Life ((w.enter r phase).sessions s).phase ((w.enter r phase).life s) := by
  rw [sessions_enter_ne h, life_enter_ne h]
  exact hlife

/-- A change that leaves a session in its phase is no event of any life. -/
theorem life_change {session : Session (Registration L)} (h : session.phase = (w.sessions r).phase)
    (hlife : Life (w.sessions s).phase (w.life s)) :
    Life ((w.change r session).sessions s).phase ((w.change r session).life s) := by
  rw [phase_change h]
  exact hlife

/-- A session lives its life, whatever happens. -/
theorem Step.life (h : Step w w') (hlife : Life (w.sessions s).phase (w.life s)) :
    Life (w'.sessions s).phase (w'.life s) := by
  cases h with
  | user | begin | answer | finish => exact hlife
  | @connect r hbegun hphase =>
    by_cases hs : s = r
    · subst hs
      rw [phase_enter_self, life_enter_self, hphase]
      -- Of the lives, only one has come to the phase that the session was in.
      generalize w.life s = life at hlife ⊢
      rw [hphase] at hlife
      cases hlife with
      | new => exact .connected
    · exact life_enter_of_ne hs _ hlife
  | @shake r op reason hop hbegun hphase =>
    rw [life_note]
    by_cases hs : s = r
    · subst hs
      rw [life_enter_self, hphase, SessionEvent.life?, if_pos rfl]
      show Life ((w.enter s .closing).sessions s).phase _
      rw [phase_enter_self]
      generalize w.life s = life at hlife ⊢
      rw [hphase] at hlife
      cases hlife with
      | connected => exact .closing
    · rw [SessionEvent.life?, if_neg (Ne.symm hs)]
      exact life_enter_of_ne hs _ hlife
  | @shut r hphase =>
    rw [life_note]
    by_cases hs : s = r
    · subst hs
      rw [life_enter_self, SessionEvent.life?, if_pos rfl]
      show Life ((w.enter s .closed).sessions s).phase _
      rw [phase_enter_self]
      exact .closed hlife hphase
    · rw [SessionEvent.life?, if_neg (Ne.symm hs)]
      exact life_enter_of_ne hs _ hlife
  | dismiss hmem hphase reason => exact life_change rfl hlife
  | @call callback hallows =>
    rw [life_note]
    cases callback with
    | close | teardown => exact hallows.elim
    | _ => exact hlife
  | join hbegun => exact life_change rfl hlife
  | leave hbegun hmem => exact life_change rfl hlife

/-- **The life of a session in any run** is one of those that lead to its phase. -/
theorem Steps.life (h : Steps (.fresh user) w) (s : SessionRef) :
    Life (w.sessions s).phase (w.life s) := by
  induction h with
  | refl => exact .new
  | tail _ hstep ih => exact hstep.life ih

/-! ### The phases of a session -/

/-- The phases that a session has had, moment by moment and from now back to the first. -/
def phases (w : SessionWorld L U) (s : SessionRef) : List SessionPhase :=
  (w.history.map fun moment ↦ (moment.sessions s).phase) ++ [.new]

theorem Steps.head?_phases (h : Steps (.fresh user) w) (s : SessionRef) :
    (w.phases s).head? = some (w.sessions s).phase := by
  have hlatest := Steps.latest h
  rw [hlatest, phases]
  cases w.history <;> rfl

/-- What is the same several times over does not break a chain. -/
theorem isChain_append_of_forall_eq {α : Type} {R : α → α → Prop} {added rest : List α} {a : α}
    (hadded : ∀ b ∈ added, b = a) (hrefl : R a a) (hhead : ∀ b ∈ rest.head?, R a b)
    (hrest : rest.IsChain R) : (added ++ rest).IsChain R := by
  induction added with
  | nil => exact hrest
  | cons first added ih =>
    obtain rfl := hadded first List.mem_cons_self
    have hadded' : ∀ b ∈ added, b = first := fun b hmem ↦ hadded b (List.mem_cons_of_mem _ hmem)
    refine List.isChain_cons.2 ⟨fun b hb ↦ ?_, ih hadded'⟩
    rcases added with - | ⟨second, added⟩
    · exact hhead b hb
    · obtain rfl := hadded' second List.mem_cons_self
      obtain rfl := Option.some.inj hb
      exact hrefl

/-- From one moment to the next, a phase stays as it is or makes one of the five moves. -/
theorem Steps.moves (h : Steps (.fresh user) w) (s : SessionRef) :
    (w.phases s).IsChain fun later earlier ↦ later = earlier ∨ earlier.canMoveTo later = true := by
  induction h with
  | refl => exact .singleton _
  | @tail before after hsteps hstep ih =>
    obtain ⟨added, hhistory, hsessions, -⟩ := hstep.moments
    have hphases : after.phases s =
        (added.map fun moment ↦ (moment.sessions s).phase) ++ before.phases s := by
      rw [phases, hhistory, List.map_append, List.append_assoc]
      rfl
    rw [hphases]
    refine isChain_append_of_forall_eq (a := (after.sessions s).phase) ?_ (Or.inl rfl) ?_ ih
    · intro phase hmem
      obtain ⟨moment, hmoment, rfl⟩ := List.mem_map.1 hmem
      rw [hsessions moment hmoment]
    · intro phase hmem
      rw [Steps.head?_phases hsteps] at hmem
      obtain rfl := Option.some.inj hmem
      exact (hstep.session s).phase

/-- A phase never moves backwards. -/
theorem Steps.forward (h : Steps (.fresh user) w) (s : SessionRef) :
    (w.phases s).Pairwise fun later earlier ↦ earlier.rank ≤ later.rank := by
  have hmoves : (w.phases s).IsChain fun later earlier ↦ earlier.rank ≤ later.rank := by
    refine (Steps.moves h s).imp fun later earlier hmove ↦ ?_
    rcases hmove with rfl | hmove
    · exact Nat.le_refl _
    · exact SessionPhase.rank_le_of_canMoveTo hmove
  have : IsTrans SessionPhase fun later earlier ↦ earlier.rank ≤ later.rank :=
    ⟨fun _ _ _ hlate hearly ↦ hearly.trans hlate⟩
  exact List.isChain_iff_pairwise.1 hmoves

/-! ### What happens once -/

/-- Two items of a list that give a value are the same item, when the list gives this value at most once.
-/
theorem eq_of_count_filterMap_le {α β : Type} [DecidableEq β] {f : α → Option β} {l : List α} {b : β}
    (h : (l.filterMap f).count b ≤ 1) {x y : α} (hx : x ∈ l) (hy : y ∈ l) (hfx : f x = some b)
    (hfy : f y = some b) : x = y := by
  have htwo : ∀ {z : α} {rest : List α}, z ∈ rest → f z = some b →
      ¬((b :: rest.filterMap f).count b ≤ 1) := by
    intro z rest hz hfz hle
    have hpos := List.count_pos_iff.2 (List.mem_filterMap.2 ⟨z, hz, hfz⟩)
    rw [List.count_cons_self] at hle
    omega
  induction l with
  | nil => simp at hx
  | cons first rest ih =>
    rcases List.mem_cons.1 hx with rfl | hxrest <;> rcases List.mem_cons.1 hy with rfl | hyrest
    · rfl
    · rw [List.filterMap_cons_some hfx] at h
      exact absurd h (htwo hyrest hfy)
    · rw [List.filterMap_cons_some hfy] at h
      exact absurd h (htwo hxrest hfx)
    · refine ih (Nat.le_trans ?_ h) hxrest hyrest
      exact (List.sublist_cons_self first rest).filterMap f |>.count_le b

/-- What is true of a session whatever programs do. -/
structure Lives (w : SessionWorld L U) (s : SessionRef) : Prop where
  /-- From one moment to the next, the phase stays as it is or makes one of the five moves. -/
  moves : (w.phases s).IsChain fun later earlier ↦
    later = earlier ∨ earlier.canMoveTo later = true
  /-- The phase never moves backwards. -/
  forward : (w.phases s).Pairwise fun later earlier ↦ earlier.rank ≤ later.rank
  /-- The protocol is told to send a close frame at most once. -/
  closeSent : (w.life s).count .closeSent ≤ 1
  /-- It is told so as often as the session moves from connected to closing. -/
  closing : (w.life s).count .closeSent = (w.life s).count (.moved .connected .closing)
  /-- It is told so right after such a move, which is the first thing that a `close` or an `onClose`
  with that reason does. -/
  closer : SessionMoment.Each (fun told earlier ↦ ∀ reason,
    told.event = .called (.close s reason) →
      ∃ moved began rest, earlier = moved :: began :: rest ∧ began.call = told.call ∧
        moved.event = .moved s .connected .closing ∧
        (began.event = .began s (.close reason) ∨ began.event = .began s (.onClose reason)))
    w.history
  /-- At most one `close` answers otherwise than by saying that nothing was done. -/
  closes : w.history.countP (fun moment ↦ moment.event.isWonClose s) ≤ 1
  /-- It answers as the protocol did, that it told to send the close frame. -/
  won : SessionMoment.Each (fun ended earlier ↦ ∀ reason answer,
    ended.event = .ended s (.close reason) answer → (∀ phase, answer ≠ .ok (.noOp phase)) →
      Did earlier ended.call (.called (.close s reason)) ∧
      ∃ sent : Except Fault Unit, answer = sent.map (fun () ↦ .handshakeSent) ∧
        Did earlier ended.call (.returned (.close s reason) sent)) w.history
  /-- Any other one names the phase that it found, and nothing has happened since it began. -/
  noOp : SessionMoment.Each (fun ended earlier ↦ ∀ reason phase,
    ended.event = .ended s (.close reason) (.ok (.noOp phase)) →
      ∃ began rest, earlier = began :: rest ∧ began.call = ended.call ∧
        began.event = .began s (.close reason) ∧ ended.sessions = began.sessions ∧
        phase = (began.sessions s).phase ∧ phase ≠ .connected) w.history
  /-- The protocol is told to let go of the connection once if the session is closed for good, and
  never before. -/
  tornDown : (w.life s).count .tornDown = if (w.sessions s).phase = .closed then 1 else 0
  /-- The listeners are told by at most one `onConnect` that the session is connected. -/
  connects : ∃ call, ∀ told ∈ w.history, ∀ registration,
    told.event = .called (.notify registration s .connect) →
      told.call = call ∧ Did w.history call (.began s .onConnect)

/-- A `close` that was answered otherwise told the protocol to send a close frame. -/
theorem did_of_isWonClose (h : Steps (.fresh user) w) {moment : SessionMoment L}
    (hmem : moment ∈ w.history) (hwon : moment.event.isWonClose s = true) :
    moment.ended? = some moment.call ∧
      ∃ reason, Did w.history moment.call (.called (.close s reason)) := by
  obtain ⟨later, earlier, hhistory, hsettled⟩ := (Steps.settled h).of_mem hmem
  have hsubset : ∀ {event}, Did earlier moment.call event → Did w.history moment.call event := by
    rintro event ⟨told, htold, hevent⟩
    refine ⟨told, ?_, hevent⟩
    rw [hhistory]
    exact List.mem_append_right _ (List.mem_cons_of_mem _ htold)
  obtain ⟨call, event, sessions⟩ := moment
  cases event with
  | ended r op answer =>
    refine ⟨rfl, ?_⟩
    obtain ⟨began, -, -, -, hconcludes⟩ := hsettled
    cases op with
    | close reason =>
      replace hconcludes := hconcludes rfl
      rcases answer with fault | outcome
      · obtain rfl : r = s := of_decide_eq_true hwon
        exact ⟨reason, hsubset hconcludes.1⟩
      · cases outcome with
        | handshakeSent =>
          obtain rfl : r = s := of_decide_eq_true hwon
          exact ⟨reason, hsubset hconcludes.1⟩
        | noOp phase => simp [SessionEvent.isWonClose] at hwon
    | _ => simp [SessionEvent.isWonClose] at hwon
  | _ => simp [SessionEvent.isWonClose] at hwon

/-- Of all the closes of a session at most one is won, since it sent the close frame. -/
theorem countP_isWonClose_le (h : Steps (.fresh user) w) (s : SessionRef) :
    w.history.countP (fun moment ↦ moment.event.isWonClose s) ≤ 1 := by
  have honce := (Steps.life h s).count_closeSent_le
  by_cases hnone : ∃ first ∈ w.history, first.event.isWonClose s = true
  · obtain ⟨first, hfirst, hwon⟩ := hnone
    obtain ⟨-, reason, told, htold, hcall, hevent⟩ := did_of_isWonClose h hfirst hwon
    -- All of them told the protocol, which was told once, so they are one operation; it ended once.
    have hsame : ∀ moment ∈ w.history, moment.event.isWonClose s = true →
        (moment.ended? == some first.call) = true := by
      intro moment hmem hwon'
      obtain ⟨hended, reason', told', htold', hcall', hevent'⟩ := did_of_isWonClose h hmem hwon'
      have heq : told' = told := eq_of_count_filterMap_le honce htold' htold
        (by rw [hevent']; exact if_pos rfl) (by rw [hevent]; exact if_pos rfl)
      rw [hended, ← hcall', heq, hcall]
      exact beq_self_eq_true _
    calc w.history.countP (fun moment ↦ moment.event.isWonClose s)
        ≤ w.history.countP (fun moment ↦ moment.ended? == some first.call) :=
          List.countP_mono_left hsame
      _ = (w.history.filterMap SessionMoment.ended?).count first.call :=
          List.count_filterMap.symm
      _ ≤ 1 := List.nodup_iff_count.1 (List.nodup_append.1 (Steps.numbered h).ended).2.1 _
  · have hzero : w.history.countP (fun moment ↦ moment.event.isWonClose s) = 0 :=
      List.countP_eq_zero.2 fun moment hmem hwon ↦ hnone ⟨moment, hmem, hwon⟩
    rw [hzero]
    exact Nat.zero_le 1

/-- A session is connected by the operation for it. -/
theorem did_of_moved_connected (h : Steps (.fresh user) w) {moved : SessionMoment L}
    (hmem : moved ∈ w.history) (hevent : moved.event = .moved s .new .connected) :
    Did w.history moved.call (.began s .onConnect) := by
  obtain ⟨later, earlier, hhistory, hsettled⟩ := (Steps.settled h).of_mem hmem
  rw [SessionMoment.Settled, hevent] at hsettled
  obtain ⟨began, rest, rfl, hcall, hbegan⟩ := hsettled rfl
  refine ⟨began, ?_, hcall, hbegan⟩
  rw [hhistory]
  simp

/-- Whoever is told that a session is connected is told so by the operation that connected it. -/
theorem did_of_notify_connect (h : Steps (.fresh user) w) {told : SessionMoment L}
    (hmem : told ∈ w.history) {registration : Registration L}
    (hevent : told.event = .called (.notify registration s .connect)) :
    Did w.history told.call (.moved s .new .connected) := by
  obtain ⟨later, earlier, hhistory, hsettled⟩ := (Steps.settled h).of_mem hmem
  rw [SessionMoment.Settled, hevent] at hsettled
  obtain ⟨moved, hmoved, hcall⟩ := hsettled
  refine ⟨moved, ?_, hcall⟩
  rw [hhistory]
  exact List.mem_append_right _ (List.mem_cons_of_mem _ hmoved)

theorem Steps.lives (h : Steps (.fresh user) w) (s : SessionRef) : w.Lives s where
  moves := Steps.moves h s
  forward := Steps.forward h s
  closeSent := (Steps.life h s).count_closeSent_le
  closing := (Steps.life h s).count_closeSent_eq
  closer := by
    refine (Steps.settled h).imp fun told earlier hsettled reason hevent ↦ ?_
    rw [SessionMoment.Settled, hevent] at hsettled
    exact hsettled
  closes := countP_isWonClose_le h s
  won := by
    refine (Steps.settled h).imp fun ended earlier hsettled reason answer hevent hne ↦ ?_
    rw [SessionMoment.Settled, hevent] at hsettled
    obtain ⟨began, -, -, -, hconcludes⟩ := hsettled
    replace hconcludes := hconcludes rfl
    rcases answer with fault | outcome
    · exact ⟨hconcludes.1, .error fault, rfl, hconcludes.2⟩
    · cases outcome with
      | handshakeSent => exact ⟨hconcludes.1, .ok (), rfl, hconcludes.2⟩
      | noOp phase => exact absurd rfl (hne phase)
  noOp := by
    refine (Steps.settled h).imp fun ended earlier hsettled reason phase hevent ↦ ?_
    rw [SessionMoment.Settled, hevent] at hsettled
    obtain ⟨began, -, -, -, hconcludes⟩ := hsettled
    obtain ⟨hhead, hsame, hphase, hne⟩ := hconcludes rfl
    obtain ⟨rest, hearlier⟩ := List.head?_eq_some_iff.1 hhead
    exact ⟨_, rest, hearlier, rfl, rfl, hsame, hphase, hne⟩
  tornDown := (Steps.life h s).count_tornDown_eq
  connects := by
    by_cases hnone : ∃ moved ∈ w.history, moved.event = .moved s .new .connected
    · obtain ⟨moved, hmem, hmoved⟩ := hnone
      refine ⟨moved.call, fun told htold registration hevent ↦
        ⟨?_, did_of_moved_connected h hmem hmoved⟩⟩
      obtain ⟨other, hother, hcall, hmoved'⟩ := did_of_notify_connect h htold hevent
      have heq : other = moved := eq_of_count_filterMap_le
        (Steps.life h s).count_moved_connected_le hother hmem
        (by rw [hmoved']; exact if_pos rfl) (by rw [hmoved]; exact if_pos rfl)
      rw [← hcall, heq]
    · refine ⟨0, fun told htold registration hevent ↦ ?_⟩
      obtain ⟨moved, hmem, -, hmoved⟩ := did_of_notify_connect h htold hevent
      exact absurd ⟨moved, hmem, hmoved⟩ hnone

end SessionWorld

/-- **A session goes one way.** Whatever programs do with new sessions, whatever their protocols and
listeners call back, each session goes through its phases in one direction, and everything that is to
be done once on the way is done once. -/
theorem SessionProgram.lives_run {L U : Type} (user : U) (program : SessionProgram L U)
    (s : SessionRef) : (program.run (.fresh user)).2.Lives s :=
  SessionWorld.Steps.lives (program.steps_run user) s

end Conduit
