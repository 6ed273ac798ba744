import Conduit.Proofs.Session.Step

/-!
# Every run takes steps

Each operation of a session is followed from where it begins to where it answers, with callbacks of
which only one thing is known: that they take steps, and leave the operations in progress as they
were (`Traces`). Programs do the same, by induction over the program (`SessionProgram.steps_run`).
-/

namespace Conduit

namespace SessionWorld

variable {L U A : Type} {w w' w'' : SessionWorld L U} {s : SessionRef}

/-- What happened between two worlds whose operations in progress are the same. -/
structure Leads (w w' : SessionWorld L U) : Prop where
  steps : Steps w w'
  running : w'.running = w.running

/-- An action that takes steps, and leaves the operations in progress as they were. -/
def Traces (action : StateM (SessionWorld L U) A) : Prop :=
  ∀ w : SessionWorld L U, w.Issued → w.Leads (action w).2

theorem Leads.refl (w : SessionWorld L U) : w.Leads w :=
  ⟨.refl, rfl⟩

theorem Leads.trans (h : w.Leads w') (h' : w'.Leads w'') : w.Leads w'' :=
  ⟨h.steps.trans h'.steps, h'.running.trans h.running⟩

theorem Leads.issued (h : w.Leads w') (hissued : w.Issued) : w'.Issued :=
  h.steps.issued hissued

theorem Leads.became (h : w.Leads w') (s : SessionRef) :
    Session.Became (w.sessions s) (w'.sessions s) :=
  Steps.became h.steps s

/-- A step that neither begins nor ends an operation leads on. -/
theorem leads_of_step (h : Step w w') (hrunning : w'.running = w.running) : w.Leads w' :=
  ⟨.single h, hrunning⟩

/-! ### What an operation remembers -/

/-- The operation in progress is the same after anything that happened in between. -/
theorem Leads.inProgress (h : w.Leads w') {op : SessionCall L}
    {sessions : SessionRef → Session (Registration L)} (hop : w.InProgress s op sessions) :
    w'.InProgress s op sessions where
  running := by
    rw [h.running]
    exact hop.running
  began := by
    rw [h.running]
    exact h.steps.history.subset hop.began

theorem Leads.did (h : w.Leads w') {event : SessionEvent L}
    (hdid : Did w.history (w.running.headD 0) event) :
    Did w'.history (w'.running.headD 0) event := by
  obtain ⟨moment, hmem, hcall, hevent⟩ := hdid
  exact ⟨moment, h.steps.history.subset hmem, by rw [h.running, hcall], hevent⟩

theorem did_note (w : SessionWorld L U) (event : SessionEvent L) :
    Did (w.note event).history (w.running.headD 0) event :=
  ⟨_, List.mem_cons_self, rfl, rfl⟩

/-- An operation that has only just begun is in progress, and has found the sessions as they are. -/
theorem JustBegun.inProgress {op : SessionCall L} (h : w.JustBegun s op) :
    w.InProgress s op w.sessions := by
  obtain ⟨hrunning, earlier, hhistory⟩ := h
  refine ⟨hrunning, ?_⟩
  rw [hhistory]
  exact List.mem_cons_self

theorem justBegun_begin (w : SessionWorld L U) (s : SessionRef) (op : SessionCall L) :
    (w.begin s op).JustBegun s op :=
  ⟨List.cons_ne_nil _ _, _, rfl⟩

/-! ### The parts of operations -/

theorem change_self (w : SessionWorld L U) (s : SessionRef) : w.change s (w.sessions s) = w := by
  rw [change, Function.update_eq_self]

theorem write_of_eq {session : Session (Registration L)}
    (h : (w.sessions s).phase = session.phase) : w.write s session = w.change s session :=
  if_pos h

/-- A session whose phase is changed moves, and the move is noted. -/
theorem write_phase_of_ne {phase : SessionPhase} (h : (w.sessions s).phase ≠ phase) :
    w.write s { w.sessions s with phase } = w.enter s phase :=
  if_neg h

section Parts

variable {act : SessionCallback L → StateM (SessionWorld L U) (Except Fault Unit)}

theorem run_phase (s : SessionRef) (w : SessionWorld L U) :
    (host act).phase s w = ((w.sessions s).phase, w) :=
  rfl

theorem run_session (f : StateM (Session (Registration L)) A) (w : SessionWorld L U) :
    ((host act).session s).run f w = ((f (w.sessions s)).1, w.write s (f (w.sessions s)).2) :=
  rfl

theorem run_move_of_eq {source target : SessionPhase} (h : (w.sessions s).phase = source)
    (hne : source ≠ target) :
    ((host act).session s).run (Session.move source target) w = (.ok (), w.enter s target) := by
  have hmove : Session.move source target (w.sessions s) =
      (.ok (), { w.sessions s with phase := target }) := by
    simp only [Session.move, bind, StateT.bind, get, getThe, MonadStateOf.get, StateT.get, pure,
      if_pos h]
    rfl
  rw [run_session, hmove, write_phase_of_ne (h ▸ hne)]

theorem run_move_of_ne {source target : SessionPhase} (h : (w.sessions s).phase ≠ source) :
    ((host act).session s).run (Session.move source target) w = (.error (w.sessions s).phase, w) := by
  have hmove : Session.move source target (w.sessions s) =
      (.error (w.sessions s).phase, w.sessions s) := by
    simp only [Session.move, bind, StateT.bind, get, getThe, MonadStateOf.get, StateT.get, pure,
      if_neg h]
    rfl
  rw [run_session, hmove, write_of_eq rfl, change_self]

theorem run_forceClosed_of_ne (h : (w.sessions s).phase ≠ .closed) :
    ((host act).session s).run Session.forceClosed w = ((w.sessions s).phase, w.enter s .closed) := by
  rw [run_session]
  exact congrArg _ (write_phase_of_ne h)

theorem run_forceClosed_of_eq (h : (w.sessions s).phase = .closed) :
    ((host act).session s).run Session.forceClosed w = (.closed, w) := by
  have hsame : ({ w.sessions s with phase := .closed } : Session (Registration L)) = w.sessions s := by
    rw [← h]
  have hforce : Session.forceClosed (w.sessions s) =
      ((w.sessions s).phase, { w.sessions s with phase := .closed }) := rfl
  rw [run_session, hforce, hsame, write_of_eq rfl, change_self, h]

theorem run_takeListener (id : ListenerId) (w : SessionWorld L U) :
    ((host act).session s).run (Session.takeListener id) w =
      ((w.sessions s).listeners.lookup id, w.change s ((w.sessions s).without id)) := by
  rw [run_session]
  exact congrArg _ (write_of_eq rfl)

/-- A callback that was made takes steps, and is answered. -/
theorem leads_callBack (hact : ∀ callback, Traces (act callback)) {callback : SessionCallback L}
    (hissued : (w.note (.called callback)).Issued) :
    let ended := callBack act callback w
    (w.note (.called callback)).Leads ended.2 ∧
      Did ended.2.history (ended.2.running.headD 0) (.called callback) ∧
      Did ended.2.history (ended.2.running.headD 0) (.returned callback ended.1) := by
  intro ended
  have hafter : (w.note (.called callback)).Leads ended.2 :=
    (hact callback _ hissued).trans (leads_of_step (.answer _ callback ended.1) rfl)
  exact ⟨hafter, hafter.did (did_note w _), did_note _ _⟩

/-- A callback that is not part of a larger step. -/
theorem leads_callBack_of_allows (hact : ∀ callback, Traces (act callback)) (hissued : w.Issued)
    {callback : SessionCallback L} (h : w.Allows callback) :
    w.Leads (callBack act callback w).2 := by
  have hcalled : w.Leads (w.note (.called callback)) := leads_of_step (.call h) rfl
  exact hcalled.trans (leads_callBack hact (hcalled.issued hissued)).1

/-- Telling listeners one after another, whatever the first ones do. -/
theorem leads_announce (hact : ∀ callback, Traces (act callback)) (hissued : w.Issued)
    {notice : Notice}
    (h : ∀ registration w', w.Leads w' → w'.Allows (.notify registration s notice)) :
    w.Leads ((host act).announce s notice w).2 := by
  have hlist : ∀ (listeners : List (ListenerId × Registration L)) (w' : SessionWorld L U),
      w.Leads w' →
      w.Leads ((listeners.forM fun e ↦ (host act).notify e.2 s notice) w').2 := by
    intro listeners
    induction listeners with
    | nil => exact fun w' hw' ↦ hw'
    | cons entry rest ih =>
      intro w' hw'
      exact ih _ (hw'.trans
        (leads_callBack_of_allows hact (hw'.issued hissued) (h entry.2 w' hw')))
  exact hlist _ w (.refl w)

/-- A listener that is told of the close is taken out first. It is gone afterwards, whatever it does. -/
theorem leads_dismissListener (hact : ∀ callback, Traces (act callback)) (hissued : w.Issued)
    (hending : (w.sessions s).phase.isEnding = true) (reason : CloseReason) {id : ListenerId}
    (hid : id.number < (w.sessions s).nextListener) :
    w.Leads ((host act).dismissListener s reason id w).2 ∧
      (((host act).dismissListener s reason id w).2.sessions s).Left id := by
  simp only [SessionHost.dismissListener, bind, StateT.bind, run_takeListener]
  cases hlookup : (w.sessions s).listeners.lookup id with
  | none =>
    have hnot := Session.not_mem_ids_of_lookup hlookup
    rw [Session.without_of_not_mem hnot, change_self]
    exact ⟨.refl w, hid, hnot⟩
  | some registration =>
    have hcalled : w.Leads ((w.change s ((w.sessions s).without id)).note
        (.called (.notify registration s (.close reason)))) :=
      leads_of_step (.dismiss (List.mem_of_lookup hlookup) hending reason) rfl
    have hleft : ((w.change s ((w.sessions s).without id)).sessions s).Left id := by
      rw [change_sessions_self]
      exact ⟨hid, fun hmem ↦ (Session.mem_ids_without.1 hmem).2 rfl⟩
    have hacted := (leads_callBack hact (hcalled.issued hissued)).1
    exact ⟨hcalled.trans hacted, (hacted.became s).left hleft⟩

/-- After a drain, the listeners that it found are not registered any more, whoever took them out. -/
theorem leads_drainListeners (hact : ∀ callback, Traces (act callback)) (hissued : w.Issued)
    (hending : (w.sessions s).phase.isEnding = true) (reason : CloseReason) :
    w.Leads ((host act).drainListeners s reason w).2 ∧
      ∀ id ∈ (w.sessions s).ids,
        id ∉ (((host act).drainListeners s reason w).2.sessions s).ids := by
  have hlist : ∀ (ids : List ListenerId) (w' : SessionWorld L U), w.Leads w' →
      (∀ id ∈ ids, id.number < (w.sessions s).nextListener) →
      w'.Leads ((ids.forM ((host act).dismissListener s reason)) w').2 ∧
        ∀ id ∈ ids, (((ids.forM ((host act).dismissListener s reason)) w').2.sessions s).Left id := by
    intro ids
    induction ids with
    | nil => exact fun w' _ _ ↦ ⟨.refl w', nofun⟩
    | cons first rest ih =>
      intro w' hw' hids
      have hfirst := Nat.lt_of_lt_of_le (hids first List.mem_cons_self)
        (hw'.became s).nextListener_le
      obtain ⟨hdismissed, hleft⟩ := leads_dismissListener hact (hw'.issued hissued)
        ((hw'.became s).isEnding hending) reason hfirst
      obtain ⟨hrest, hrestLeft⟩ := ih _ (hw'.trans hdismissed)
        fun id hmem ↦ hids id (List.mem_cons_of_mem _ hmem)
      refine ⟨hdismissed.trans hrest, fun id hmem ↦ ?_⟩
      rcases List.mem_cons.1 hmem with rfl | hmem
      · exact (hrest.became s).left hleft
      · exact hrestLeft id hmem
  obtain ⟨hdrained, hleft⟩ := hlist (w.sessions s).ids w (.refl w) (hissued s).lt
  exact ⟨hdrained, fun id hmem ↦ (hleft id hmem).notMem⟩

/-! ### Operations -/

/-- A session is connected, and its listeners are told. -/
theorem leads_onConnect (hact : ∀ callback, Traces (act callback)) (hissued : w.Issued)
    (hbegun : w.JustBegun s .onConnect) : w.Leads ((host act).onConnect s w).2 := by
  by_cases hphase : (w.sessions s).phase = .new
  · have hmoved : w.Leads (w.enter s .connected) := leads_of_step (.connect hbegun hphase) rfl
    have hannounced : (w.enter s .connected).Leads
        ((host act).announce s .connect (w.enter s .connected)).2 := by
      refine leads_announce hact (hmoved.issued hissued) fun registration w' hw' ↦ hw'.did ?_
      rw [← hphase]
      exact did_note _ _
    have hne : SessionPhase.new ≠ .connected := by decide
    simp only [SessionHost.onConnect, bind, StateT.bind, run_move_of_eq hphase hne]
    exact hmoved.trans hannounced
  · simp only [SessionHost.onConnect, bind, StateT.bind, run_move_of_ne hphase]
    cases (w.sessions s).phase <;> exact .refl w

/-- Nothing is sent but by a connected session. -/
theorem leads_whenConnected {send : StateM (SessionWorld L U) (Except Fault Unit)}
    (h : (w.sessions s).phase.isConnected = true → w.Leads (send w).2) :
    w.Leads ((host act).whenConnected s send w).2 := by
  simp only [SessionHost.whenConnected, bind, StateT.bind, run_phase]
  split
  · next hphase => exact h hphase
  · exact .refl w

theorem leads_sendFrame (hact : ∀ callback, Traces (act callback)) (hissued : w.Issued)
    (s : SessionRef) (frame : Frame) : w.Leads ((host act).sendFrame s frame w).2 :=
  leads_whenConnected fun hphase ↦ leads_callBack_of_allows hact hissued hphase

theorem leads_sendFragment (hact : ∀ callback, Traces (act callback)) (hissued : w.Issued)
    (last : Bool) (payload : Bytes) : w.Leads ((host act).sendFragment s last payload w).2 :=
  leads_whenConnected fun hphase ↦ leads_callBack_of_allows hact hissued hphase

/-- A ping is answered before the listeners are told of it. -/
theorem leads_onPing (hact : ∀ callback, Traces (act callback)) (hissued : w.Issued)
    (payload : Bytes) : w.Leads ((host act).onPing s payload w).2 := by
  have hsent := leads_sendFrame hact hissued s (.pong payload)
  simp only [SessionHost.onPing, SessionHost.sendPong, bind, StateT.bind]
  rcases hrun : (host act).sendFrame s (.pong payload) w with ⟨answer, w'⟩
  rw [hrun] at hsent
  cases answer with
  | error fault => exact hsent
  | ok =>
    have hannounced : w'.Leads ((host act).announce s (.ping payload) w').2 :=
      leads_announce hact (hsent.issued hissued) fun _ _ _ ↦ trivial
    exact hsent.trans hannounced

/-- What every call leads on from leads on from all of them. -/
theorem leads_foldlM {f : Nat → SessionRef → StateM (SessionWorld L U) Nat}
    (hf : ∀ count recipient w', w.Leads w' → w.Leads (f count recipient w').2)
    (recipients : List SessionRef) (count : Nat) {w' : SessionWorld L U} (hw' : w.Leads w') :
    w.Leads (recipients.foldlM f count w').2 := by
  induction recipients generalizing count w' with
  | nil => exact hw'
  | cons first rest ih =>
    rw [List.foldlM_cons]
    exact ih _ (hf count first w' hw')

/-- A broadcast takes the steps of what it sends. -/
theorem leads_broadcast (hact : ∀ callback, Traces (act callback)) (hissued : w.Issued)
    (recipients : List SessionRef) (frame : Frame) :
    w.Leads ((host act).broadcast s recipients frame w).2 := by
  simp only [SessionHost.broadcast, bind, StateT.bind, run_phase]
  split
  · exact .refl w
  · refine leads_foldlM (fun count recipient w' hw' ↦ ?_) recipients 0 (.refl w)
    have hsent := hw'.trans (leads_sendFrame hact (hw'.issued hissued) recipient frame)
    rcases hrun : (host act).sendFrame recipient frame w' with ⟨answer, w''⟩
    rw [hrun] at hsent
    simp only [StateT.bind, bind, hrun]
    cases answer with
    | error fault => exact hsent
    | ok => exact hsent

/-- A close frame is sent by the call that moves the session, and no other call does anything. -/
theorem leads_close (hact : ∀ callback, Traces (act callback)) (hissued : w.Issued)
    {reason : CloseReason} (hbegun : w.JustBegun s (.close reason)) :
    let closed := (host act).close s reason w
    w.Leads closed.2 ∧ Concludes closed.2.history (closed.2.running.headD 0) w.sessions
      closed.2.sessions s (.close reason) closed.1 := by
  by_cases hphase : (w.sessions s).phase = .connected
  · have hshaken : w.Leads ((w.enter s .closing).note (.called (.close s reason))) :=
      leads_of_step (.shake (Or.inl rfl) hbegun hphase) rfl
    have hasked := leads_callBack hact (hshaken.issued hissued)
    rcases hrun : callBack act (.close s reason) (w.enter s .closing) with ⟨answer, w'⟩
    rw [hrun] at hasked
    have hclose : (host act).close s reason w = (answer.map fun () ↦ .handshakeSent, w') := by
      simp only [SessionHost.close, bind, StateT.bind,
        run_move_of_eq hphase (by decide : SessionPhase.connected ≠ .closing)]
      show (((callBack act (.close s reason) (w.enter s .closing)).1.map _,
        (callBack act (.close s reason) (w.enter s .closing)).2) : _ × _) = _
      rw [hrun]
    rw [hclose]
    obtain ⟨hacted, hdone⟩ := hasked
    refine ⟨hshaken.trans hacted, ?_⟩
    cases answer with
    | error fault => exact hdone
    | ok => exact hdone
  · simp only [SessionHost.close, bind, StateT.bind, run_move_of_ne hphase]
    obtain ⟨-, earlier, hhistory⟩ := hbegun
    have hhead : w.history.head? =
        some ⟨w.running.headD 0, .began s (.close reason), w.sessions⟩ := by
      rw [hhistory]
      rfl
    exact ⟨.refl w, hhead, rfl, rfl, hphase⟩

/-- The protocol lets go of the connection unless the session was closed before. -/
theorem leads_finish (hact : ∀ callback, Traces (act callback)) (hissued : w.Issued) :
    w.Leads ((host act).finish s w).2 ∧
      (((host act).finish s w).2.sessions s).phase.isEnding = true := by
  by_cases hphase : (w.sessions s).phase = .closed
  · simp only [SessionHost.finish, bind, StateT.bind, run_forceClosed_of_eq hphase]
    refine ⟨.refl w, ?_⟩
    show (w.sessions s).phase.isEnding = true
    rw [hphase]
    rfl
  · have hshut : w.Leads ((w.enter s .closed).note (.called (.teardown s))) :=
      leads_of_step (.shut hphase) rfl
    have hending : (((w.enter s .closed).note (.called (.teardown s))).sessions s).phase.isEnding =
        true := by
      show ((w.change s _).sessions s).phase.isEnding = true
      rw [change_sessions_self]
      rfl
    have hacted := (leads_callBack hact (hshut.issued hissued)).1
    have hterminal : (!(w.sessions s).phase.isTerminal) = true := by
      simpa [SessionPhase.isTerminal] using hphase
    simp only [SessionHost.finish, bind, StateT.bind, run_forceClosed_of_ne hphase, hterminal]
    exact ⟨hshut.trans hacted, (hacted.became s).isEnding hending⟩

/-- A drain at the end of an operation also leaves none of the listeners that the operation found. -/
theorem drained_drainListeners (hact : ∀ callback, Traces (act callback)) (hissued : w.Issued)
    (hleads : w.Leads w') (hending : (w'.sessions s).phase.isEnding = true)
    (reason : CloseReason) :
    w'.Leads ((host act).drainListeners s reason w').2 ∧
      ∀ id ∈ (w.sessions s).ids,
        id ∉ (((host act).drainListeners s reason w').2.sessions s).ids := by
  obtain ⟨hdrained, hleft⟩ := leads_drainListeners hact (hleads.issued hissued) hending reason
  refine ⟨hdrained, fun id hmem ↦ ?_⟩
  by_cases hstill : id ∈ (w'.sessions s).ids
  · exact hleft id hstill
  · have hissuedNow := Nat.lt_of_lt_of_le ((hissued s).lt id hmem) (hleads.became s).nextListener_le
    exact ((hdrained.became s).left ⟨hissuedNow, hstill⟩).notMem

/-- **Closing by force** takes steps, and then all who were registered are gone. -/
theorem leads_markClosed (hact : ∀ callback, Traces (act callback)) (hissued : w.Issued) :
    let closed := (host act).markClosed s w
    w.Leads closed.2 ∧ Concludes closed.2.history (closed.2.running.headD 0) w.sessions
      closed.2.sessions s .markClosed closed.1 := by
  obtain ⟨hfinished, hending⟩ := leads_finish (s := s) hact hissued
  obtain ⟨hdrained, hgone⟩ := drained_drainListeners hact hissued hfinished hending .abnormal
  exact ⟨hfinished.trans hdrained, hgone⟩

/-- A close frame is sent back by a connected session, and then the listeners are told. -/
theorem leads_onClose (hact : ∀ callback, Traces (act callback)) (hissued : w.Issued)
    {reason : CloseReason} (hbegun : w.JustBegun s (.onClose reason)) :
    let closed := (host act).onClose s reason w
    w.Leads closed.2 ∧ Concludes closed.2.history (closed.2.running.headD 0) w.sessions
      closed.2.sessions s (.onClose reason) closed.1 := by
  by_cases hphase : (w.sessions s).phase = .connected
  · have hshaken : w.Leads ((w.enter s .closing).note (.called (.close s reason))) :=
      leads_of_step (.shake (Or.inr rfl) hbegun hphase) rfl
    have hasked := leads_callBack hact (hshaken.issued hissued)
    rcases hrun : callBack act (.close s reason) (w.enter s .closing) with ⟨answer, w'⟩
    rw [hrun] at hasked
    obtain ⟨hacted, -, hreturned⟩ := hasked
    have hleads := hshaken.trans hacted
    have hending : (w'.sessions s).phase.isEnding = true := by
      refine (hacted.became s).isEnding ?_
      show ((w.change s _).sessions s).phase.isEnding = true
      rw [change_sessions_self]
      rfl
    obtain ⟨hdrained, hgone⟩ := drained_drainListeners hact hissued hleads hending reason
    have hclose : (host act).onClose s reason w =
        (answer, ((host act).drainListeners s reason w').2) := by
      simp only [SessionHost.onClose, bind, StateT.bind,
        run_move_of_eq hphase (by decide : SessionPhase.connected ≠ .closing)]
      show (((callBack act (.close s reason) (w.enter s .closing)).1,
        ((host act).drainListeners s reason
          (callBack act (.close s reason) (w.enter s .closing)).2).2) : _ × _) = _
      rw [hrun]
    rw [hclose]
    refine ⟨hleads.trans hdrained, hgone, ?_⟩
    rw [if_pos hphase]
    exact hdrained.did hreturned
  · obtain ⟨hfinished, hending⟩ := leads_finish (s := s) hact hissued
    obtain ⟨hdrained, hgone⟩ := drained_drainListeners hact hissued hfinished hending reason
    simp only [SessionHost.onClose, bind, StateT.bind, run_move_of_ne hphase]
    refine ⟨hfinished.trans hdrained, hgone, ?_⟩
    rw [if_neg hphase]
    rfl

theorem issued_begin (hissued : w.Issued) (s : SessionRef) (op : SessionCall L) :
    (w.begin s op).Issued :=
  Steps.issued (.single (.begin w s op)) hissued

/-- An operation that has taken its steps, and concludes with an answer. -/
theorem leads_answer {op : SessionCall L} {answer : op.Answer} (h : (w.begin s op).Leads w')
    (hconcludes : Concludes w'.history (w'.running.headD 0) w.sessions w'.sessions s op answer) :
    w.Leads (w'.finish s op answer) where
  steps := (Relation.ReflTransGen.head (.begin w s op) h.steps).tail
    (.finish (h.inProgress (justBegun_begin w s op).inProgress) hconcludes)
  running := by
    show w'.running.tail = w.running
    rw [h.running]
    rfl

/-- A listener is registered in the step in which the operation answers. -/
theorem perform_addListener (s : SessionRef) (listener : L) (w : SessionWorld L U) :
    (perform act s (.addListener listener) w).2 =
      ((w.begin s (.addListener listener)).change s ((w.sessions s).joined listener)).finish s
        (.addListener listener) ⟨(w.sessions s).nextListener⟩ :=
  congrArg (finish · s (.addListener listener) _) (write_of_eq rfl)

/-- A listener is taken out in the step in which the operation answers. -/
theorem perform_removeListener (s : SessionRef) (id : ListenerId) (w : SessionWorld L U) :
    (perform act s (.removeListener id) w).2 =
      ((w.begin s (.removeListener id)).change s ((w.sessions s).without id)).finish s
        (.removeListener id) ((w.sessions s).listeners.lookup id).isSome := by
  have hremoved : (host act).operate s (.removeListener id) (w.begin s (.removeListener id)) =
      (((w.sessions s).listeners.lookup id).isSome,
        (w.begin s (.removeListener id)).change s ((w.sessions s).without id)) := by
    simp only [SessionHost.operate, SessionHost.removeListener, bind, StateT.bind,
      run_takeListener]
    rfl
  rw [perform, hremoved]

/-- Every operation takes steps from where it begins to where it answers. -/
theorem traces_perform (hact : ∀ callback, Traces (act callback)) (s : SessionRef)
    (op : SessionCall L) : Traces (perform act s op) := by
  intro w hissued
  have hbegun := justBegun_begin w s op
  have hissuedNow := issued_begin hissued s op
  cases op with
  | onConnect => exact leads_answer (leads_onConnect hact hissuedNow hbegun) trivial
  | onMessage | onFragment | onPong =>
    exact leads_answer (leads_announce hact hissuedNow fun _ _ _ ↦ trivial) trivial
  | onPing payload => exact leads_answer (leads_onPing hact hissuedNow payload) trivial
  | onClose reason =>
    obtain ⟨hleads, hconcludes⟩ := leads_onClose hact hissuedNow hbegun
    exact leads_answer hleads hconcludes
  | close reason =>
    obtain ⟨hleads, hconcludes⟩ := leads_close hact hissuedNow hbegun
    exact leads_answer hleads hconcludes
  | markClosed =>
    obtain ⟨hleads, hconcludes⟩ := leads_markClosed (s := s) hact hissuedNow
    exact leads_answer hleads hconcludes
  | sendText | sendBinary | sendPing | sendPong | sendFrame =>
    exact leads_answer (leads_sendFrame hact hissuedNow s _) trivial
  | sendFragment last payload =>
    exact leads_answer (leads_sendFragment hact hissuedNow last payload) trivial
  | broadcast recipients frame =>
    exact leads_answer (leads_broadcast hact hissuedNow recipients frame) trivial
  | addListener listener =>
    rw [perform_addListener]
    exact ⟨(Relation.ReflTransGen.single (.begin w s _)).tail (.join hbegun), rfl⟩
  | removeListener id =>
    rw [perform_removeListener]
    cases hlookup : (w.sessions s).listeners.lookup id with
    | none =>
      have hsame : (w.begin s (.removeListener id)).change s ((w.sessions s).without id) =
          w.begin s (.removeListener id) := by
        rw [Session.without_of_not_mem (Session.not_mem_ids_of_lookup hlookup)]
        exact change_self _ s
      rw [hsame]
      exact leads_answer (.refl _) rfl
    | some registration =>
      have hmem := List.mem_map_of_mem (f := Prod.fst) (List.mem_of_lookup hlookup)
      exact ⟨(Relation.ReflTransGen.single (.begin w s _)).tail (.leave hbegun hmem), rfl⟩

end Parts

end SessionWorld

/-! ### Programs -/

namespace SessionProgram

variable {L U : Type}

/-- A program takes steps, by induction over the program. -/
theorem traces_run (program : SessionProgram L U) : SessionWorld.Traces program.run := by
  induction program with
  | done answer => exact fun w _ ↦ .refl w
  | user change next ih =>
    intro w hissued
    have hchanged : w.Leads { w with user := change w.user } :=
      SessionWorld.leads_of_step (.user w _) rfl
    exact hchanged.trans (ih w.user _ (hchanged.issued hissued))
  | look s next ih => exact fun w hissued ↦ ih (w.sessions s) w hissued
  | call s op callbacks next ihCallbacks ihNext =>
    intro w hissued
    have hperformed := SessionWorld.traces_perform ihCallbacks s op w hissued
    exact hperformed.trans (ihNext _ _ (hperformed.issued hissued))

theorem issued_fresh (user : U) : (SessionWorld.fresh user : SessionWorld L U).Issued :=
  fun _ ↦ ⟨nofun, nofun⟩

/-- **Runs take steps.** Whatever a program does, new sessions change by steps alone. -/
theorem steps_run (user : U) (program : SessionProgram L U) :
    SessionWorld.Steps (.fresh user) (program.run (.fresh user)).2 :=
  (program.traces_run _ (issued_fresh user)).steps

end SessionProgram

end Conduit
