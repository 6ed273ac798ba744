import Conduit.Proofs.Session.Drain

/-!
# What listeners hear when they are gone

A session that tells its listeners something finds out once who is registered, and then tells those one
after another, whatever the first ones do. A listener that is taken out meanwhile is still told, so that
a listener is gone does not mean that it hears of nothing more.

What can be said is where every notice comes from (`SessionMoment.Heralded`). Right before an operation
begins to tell the listeners of a session something, the history has a moment that shows whom it is
going to tell, and this moment is of the same operation. It comes before a listener is gone if it shows
that listener, which is what the ledgers say. So who is gone hears only of what was on its way then
(`SessionProgram.parted_run`).

That every notice is heralded does not follow from the steps, which do not say whom an operation found.
The operations are therefore followed once more, with less to remember: that the history grows, and that
the operations in progress are the same again (`SessionWorld.Extends`).
-/

namespace Conduit

namespace SessionEvent

variable {L : Type}

/-- Whether an event is the one after which the listeners of a session are told something. Nothing
heralds a close, because whoever is told of it is taken out at that very moment. -/
def Heralds (s : SessionRef) : Notice → SessionEvent L → Prop
  | .connect, event => event = .moved s .new .connected
  | .message frame, event => event = .began s (.onMessage frame)
  | .fragment frame, event => event = .began s (.onFragment frame)
  | .ping payload, event => event = .returned (.send s (.pong payload)) (.ok ())
  | .pong payload, event => event = .began s (.onPong payload)
  | .close _, _ => False

end SessionEvent

namespace SessionMoment

variable {L : Type}

/-- A notice other than of the close was heralded: the operation that gives it had found the listener
registered. -/
def Heralded (moment : SessionMoment L) (earlier : List (SessionMoment L)) : Prop :=
  ∀ registration s notice, moment.event = .called (.notify registration s notice) →
    (∀ reason, notice ≠ .close reason) →
    ∃ herald ∈ earlier, herald.call = moment.call ∧ herald.event.Heralds s notice ∧
      registration ∈ (herald.sessions s).listeners.map Prod.snd

/-- The listeners of a session that were told of the close, or taken out on demand. -/
def gone (s : SessionRef) (history : List (SessionMoment L)) : List ListenerId :=
  dismissals s history ++ removals s history

/-- Who is gone was told or taken out at some moment. -/
theorem mem_gone_append {s : SessionRef} {later earlier : List (SessionMoment L)} {id : ListenerId} :
    id ∈ gone s (later ++ earlier) ↔ id ∈ gone s later ∨ id ∈ gone s earlier := by
  simp only [gone, dismissals_append, removals_append, List.mem_append]
  tauto

end SessionMoment

namespace SessionWorld

open SessionMoment

variable {L U A B : Type} {w w' w'' : SessionWorld L U} {s : SessionRef} {user : U}

/-! ### Worlds that extend others -/

/-- The history has grown, the operations in progress are the same, and what was added is heralded. -/
structure Extends (w w' : SessionWorld L U) : Prop where
  history : w.history <:+ w'.history
  running : w'.running = w.running
  heralded : Each Heralded w.history → Each Heralded w'.history

/-- An action that extends every world. -/
def Extending (action : StateM (SessionWorld L U) A) : Prop :=
  ∀ w : SessionWorld L U, w.Extends (action w).2

theorem Extends.refl (w : SessionWorld L U) : w.Extends w :=
  ⟨List.suffix_rfl, rfl, id⟩

theorem Extends.trans (h : w.Extends w') (h' : w'.Extends w'') : w.Extends w'' :=
  ⟨h.history.trans h'.history, h'.running.trans h.running, h'.heralded ∘ h.heralded⟩

theorem extends_change (w : SessionWorld L U) (s : SessionRef) (session : Session (Registration L)) :
    w.Extends (w.change s session) :=
  ⟨List.suffix_rfl, rfl, id⟩

/-- A note extends the world if it is heralded. -/
theorem extends_note {event : SessionEvent L}
    (h : Heralded ⟨w.running.headD 0, event, w.sessions⟩ w.history) : w.Extends (w.note event) :=
  ⟨⟨[_], rfl⟩, rfl, fun hheralded ↦ ⟨h, hheralded⟩⟩

theorem extends_enter (w : SessionWorld L U) (s : SessionRef) (phase : SessionPhase) :
    w.Extends (w.enter s phase) :=
  (extends_change w s _).trans (extends_note nofun)

/-- What is written to a session is noted only if its phase changes, and a move is no notice. -/
theorem extends_write (w : SessionWorld L U) (s : SessionRef) (session : Session (Registration L)) :
    w.Extends (w.write s session) := by
  rw [write]
  split
  · exact extends_change w s session
  · exact (extends_change w s session).trans (extends_note nofun)

namespace Extending

theorem pure (a : A) : Extending (pure a : StateM (SessionWorld L U) A) :=
  fun w ↦ .refl w

theorem bind {x : StateM (SessionWorld L U) A} {f : A → StateM (SessionWorld L U) B}
    (hx : Extending x) (hf : ∀ a, Extending (f a)) : Extending (x >>= f) :=
  fun w ↦ (hx w).trans (hf _ _)

theorem forM {f : A → StateM (SessionWorld L U) Unit} (hf : ∀ a, Extending (f a)) (list : List A) :
    Extending (list.forM f) := by
  induction list with
  | nil => exact .pure ()
  | cons a list ih => exact (hf a).bind fun _ ↦ ih

theorem foldlM {f : B → A → StateM (SessionWorld L U) B} (hf : ∀ b a, Extending (f b a))
    (list : List A) (b : B) : Extending (list.foldlM f b) := by
  induction list generalizing b with
  | nil => exact .pure b
  | cons a list ih =>
    rw [List.foldlM_cons]
    exact (hf b a).bind ih

end Extending

/-! ### The parts of operations -/

section Parts

variable {act : SessionCallback L → StateM (SessionWorld L U) (Except Fault Unit)}

theorem extending_run (s : SessionRef) (f : StateM (Session (Registration L)) A) :
    Extending (((host act).session s).run f) :=
  fun w ↦ extends_write w s _

theorem extending_get (s : SessionRef) : Extending ((host act).session s).get :=
  fun w ↦ .refl w

/-- A callback that was heralded, or that needs no herald. -/
theorem extends_callBack (hact : ∀ callback, Extending (act callback))
    {callback : SessionCallback L}
    (h : Heralded ⟨w.running.headD 0, .called callback, w.sessions⟩ w.history) :
    w.Extends (callBack act callback w).2 :=
  (extends_note h).trans ((hact callback _).trans (extends_note nofun))

/-- Telling listeners one after another, whatever the first ones do. -/
theorem extends_announce (hact : ∀ callback, Extending (act callback)) {notice : Notice}
    {herald : SessionMoment L} (hmem : herald ∈ w.history) (hcall : herald.call = w.running.headD 0)
    (hevent : herald.event.Heralds s notice) (hsessions : herald.sessions s = w.sessions s) :
    w.Extends ((host act).announce s notice w).2 := by
  -- By induction on whom is left to tell. The herald stays in the history, which only grows.
  have hlist : ∀ (listeners : List (ListenerId × Registration L)) (w' : SessionWorld L U),
      listeners ⊆ (w.sessions s).listeners → w.Extends w' →
      w.Extends ((listeners.forM fun e ↦ (host act).notify e.2 s notice) w').2 := by
    intro listeners
    induction listeners with
    | nil => exact fun w' _ hw' ↦ hw'
    | cons entry rest ih =>
      intro w' hsub hw'
      obtain ⟨hentry, hrest⟩ := List.cons_subset.1 hsub
      refine ih _ hrest (hw'.trans (extends_callBack hact ?_))
      rintro registration r other heq -
      cases heq
      refine ⟨herald, hw'.history.subset hmem, ?_, hevent, ?_⟩
      · rw [hcall, hw'.running]
      · rw [hsessions]
        exact List.mem_map_of_mem hentry
  exact hlist _ w (List.Subset.refl _) (.refl w)

/-- Nothing heralds the close: whoever is told of it is taken out right before. -/
theorem extending_dismissListener (hact : ∀ callback, Extending (act callback)) (s : SessionRef)
    (reason : CloseReason) (id : ListenerId) :
    Extending ((host act).dismissListener s reason id) := by
  refine (extending_run s _).bind fun found w ↦ ?_
  cases found with
  | none => exact .refl w
  | some registration =>
    refine extends_callBack hact ?_
    rintro other r notice heq hclose
    cases heq
    exact absurd rfl (hclose reason)

/-- A drain tells of nothing but the close. -/
theorem extending_drainListeners (hact : ∀ callback, Extending (act callback)) (s : SessionRef)
    (reason : CloseReason) : Extending ((host act).drainListeners s reason) :=
  (extending_get s).bind fun _ ↦ .forM (extending_dismissListener hact s reason) _

theorem extending_finish (hact : ∀ callback, Extending (act callback)) (s : SessionRef) :
    Extending ((host act).finish s) := by
  refine (extending_run s _).bind fun before w ↦ ?_
  cases before.isTerminal with
  | true => exact .refl w
  | false => exact extends_callBack hact nofun

/-- What is sent by a connected session is no notice. -/
theorem extending_whenConnected (s : SessionRef)
    {send : StateM (SessionWorld L U) (Except Fault Unit)} (h : Extending send) :
    Extending ((host act).whenConnected s send) := by
  intro w
  simp only [SessionHost.whenConnected, bind, StateT.bind, run_phase]
  split
  · exact h w
  · exact .refl w

theorem extending_sendFrame (hact : ∀ callback, Extending (act callback)) (s : SessionRef)
    (frame : Frame) : Extending ((host act).sendFrame s frame) :=
  extending_whenConnected s fun _ ↦ extends_callBack hact nofun

theorem extending_sendFragment (hact : ∀ callback, Extending (act callback)) (s : SessionRef)
    (last : Bool) (payload : Bytes) : Extending ((host act).sendFragment s last payload) :=
  extending_whenConnected s fun _ ↦ extends_callBack hact nofun

theorem extending_broadcast (hact : ∀ callback, Extending (act callback)) (s : SessionRef)
    (recipients : List SessionRef) (frame : Frame) :
    Extending ((host act).broadcast s recipients frame) := by
  intro w
  simp only [SessionHost.broadcast, bind, StateT.bind, run_phase]
  split
  · exact .refl w
  · refine Extending.foldlM (fun count recipient ↦ ?_) recipients 0 w
    refine (extending_sendFrame hact recipient frame).bind fun answer ↦ ?_
    cases answer <;> exact .pure _

theorem extending_close (hact : ∀ callback, Extending (act callback)) (s : SessionRef)
    (reason : CloseReason) : Extending ((host act).close s reason) := by
  refine (extending_run s _).bind fun moved w ↦ ?_
  cases moved with
  | error phase => exact .refl w
  | ok => exact extends_callBack hact nofun

/-- A close frame is answered by the protocol before the listeners are told. -/
theorem extending_onClose (hact : ∀ callback, Extending (act callback)) (s : SessionRef)
    (reason : CloseReason) : Extending ((host act).onClose s reason) := by
  refine (extending_run s _).bind fun moved ↦ ?_
  have hdrained : ∀ echoed : Except Fault Unit, Extending (do
      (host act).drainListeners s reason
      return echoed) :=
    fun echoed ↦ (extending_drainListeners hact s reason).bind fun _ ↦ .pure echoed
  cases moved with
  | error phase => exact (extending_finish hact s).bind fun _ ↦ hdrained _
  | ok =>
    refine Extending.bind (fun w ↦ ?_) hdrained
    exact extends_callBack hact nofun

theorem extending_markClosed (hact : ∀ callback, Extending (act callback)) (s : SessionRef) :
    Extending ((host act).markClosed s) :=
  (extending_finish hact s).bind fun _ ↦ extending_drainListeners hact s _

/-! ### Operations that tell listeners -/

/-- A session that is connected tells the listeners that it has then. -/
theorem extending_onConnect (hact : ∀ callback, Extending (act callback)) (s : SessionRef) :
    Extending ((host act).onConnect s) := by
  intro w
  by_cases hphase : (w.sessions s).phase = .new
  · have hannounced : (w.enter s .connected).Extends
        ((host act).announce s .connect (w.enter s .connected)).2 := by
      refine extends_announce hact List.mem_cons_self rfl ?_ rfl
      exact congrArg (SessionEvent.moved s · SessionPhase.connected) hphase
    simp only [SessionHost.onConnect, bind, StateT.bind,
      run_move_of_eq hphase (by decide : SessionPhase.new ≠ .connected)]
    exact (extends_enter w s .connected).trans hannounced
  · simp only [SessionHost.onConnect, bind, StateT.bind, run_move_of_ne hphase]
    cases (w.sessions s).phase <;> exact .refl w

/-- What a protocol sent is the last thing that happened. -/
theorem returned_of_sendFrame_eq_ok {frame : Frame}
    (h : (host act).sendFrame s frame w = (.ok (), w')) :
    ∃ earlier, w'.history =
      ⟨w'.running.headD 0, .returned (.send s frame) (.ok ()), w'.sessions⟩ :: earlier := by
  simp only [SessionHost.sendFrame, SessionHost.whenConnected, bind, StateT.bind, run_phase] at h
  split at h
  · rcases hsent : act (.send s frame) (w.note (.called (.send s frame))) with ⟨answer, w₁⟩
    have hcalled : callBack act (.send s frame) w =
        (answer, w₁.note (.returned (.send s frame) answer)) := by
      rw [callBack, hsent]
    obtain ⟨rfl, rfl⟩ := Prod.mk.inj (hcalled.symm.trans h)
    exact ⟨w₁.history, rfl⟩
  · cases congrArg Prod.fst h

/-- The listeners are told of a ping once the pong was sent. -/
theorem extending_onPing (hact : ∀ callback, Extending (act callback)) (s : SessionRef)
    (payload : Bytes) : Extending ((host act).onPing s payload) := by
  intro w
  have hsent := extending_sendFrame hact s (.pong payload) w
  simp only [SessionHost.onPing, SessionHost.sendPong, bind, StateT.bind]
  rcases hrun : (host act).sendFrame s (.pong payload) w with ⟨answer, w'⟩
  rw [hrun] at hsent
  cases answer with
  | error fault => exact hsent
  | ok =>
    obtain ⟨earlier, hhistory⟩ := returned_of_sendFrame_eq_ok hrun
    have hmem : ⟨w'.running.headD 0, .returned (.send s (.pong payload)) (.ok ()), w'.sessions⟩ ∈
        w'.history := hhistory ▸ List.mem_cons_self
    have hannounced : w'.Extends ((host act).announce s (.ping payload) w').2 :=
      extends_announce hact hmem rfl rfl rfl
    exact hsent.trans hannounced

/-- What was begun just now is the herald of what arrives. -/
theorem extends_announce_of_justBegun (hact : ∀ callback, Extending (act callback))
    {op : SessionCall L} (hbegun : w.JustBegun s op) {notice : Notice}
    (hevent : (SessionEvent.began s op).Heralds s notice) :
    w.Extends ((host act).announce s notice w).2 := by
  obtain ⟨-, earlier, hhistory⟩ := hbegun
  exact extends_announce hact (hhistory ▸ List.mem_cons_self) rfl hevent rfl

/-- **Every operation heralds what it tells the listeners**, since it has only just begun. -/
theorem extends_operate (hact : ∀ callback, Extending (act callback)) {op : SessionCall L}
    (hbegun : w.JustBegun s op) : w.Extends ((host act).operate s op w).2 := by
  cases op with
  | onConnect => exact extending_onConnect hact s w
  | onMessage | onFragment | onPong => exact extends_announce_of_justBegun hact hbegun rfl
  | onPing payload => exact extending_onPing hact s payload w
  | onClose reason => exact extending_onClose hact s reason w
  | close reason => exact extending_close hact s reason w
  | markClosed => exact extending_markClosed hact s w
  | sendText | sendBinary | sendPing | sendPong | sendFrame =>
    exact extending_sendFrame hact s _ w
  | sendFragment last payload => exact extending_sendFragment hact s last payload w
  | broadcast recipients frame => exact extending_broadcast hact s recipients frame w
  | addListener listener =>
    exact ((extending_get s).bind fun _ ↦ extending_run s _) w
  | removeListener id => exact ((extending_run s _).bind fun _ ↦ .pure _) w

/-- Every operation extends the world, with what its callbacks do. -/
theorem extending_perform (hact : ∀ callback, Extending (act callback)) (s : SessionRef)
    (op : SessionCall L) : Extending (perform act s op) := by
  intro w
  obtain ⟨hhistory, hrunning, hheralded⟩ := extends_operate hact (justBegun_begin w s op)
  -- Nobody is told anything as an operation begins, nor as it answers.
  refine ⟨?_, congrArg List.tail hrunning, fun hw ↦ ⟨nofun, hheralded ⟨nofun, hw⟩⟩⟩
  exact ((List.suffix_cons _ _).trans hhistory).trans (List.suffix_cons _ _)

end Parts

/-! ### Programs -/

/-- So does every program, by induction over the program. -/
theorem extending_program (program : SessionProgram L U) : Extending program.run := by
  induction program with
  | done answer => exact .pure answer
  | user change next ih =>
    intro w
    have hchanged : w.Extends { w with user := change w.user } := ⟨List.suffix_rfl, rfl, id⟩
    exact hchanged.trans (ih w.user _)
  | look s next ih => exact fun w ↦ ih (w.sessions s) w
  | call s op callbacks next ihCallbacks ihNext =>
    intro w
    exact (extending_perform ihCallbacks s op w).trans (ihNext _ _)

/-- The sessions of every moment have their listeners under their own numbers. -/
theorem Steps.issued_of_mem (h : Steps (.fresh user) w) :
    ∀ moment ∈ w.history, ∀ s, (moment.sessions s).Issued := by
  induction h with
  | refl => exact fun _ hmem ↦ absurd hmem List.not_mem_nil
  | tail hsteps hstep ih =>
    have hissued := Steps.issued (hsteps.tail hstep) (SessionProgram.issued_fresh user)
    obtain ⟨added, hhistory, hsessions, -⟩ := hstep.moments
    rw [hhistory]
    intro moment hmem s
    rcases List.mem_append.1 hmem with hmem | hmem
    · rw [hsessions moment hmem]
      exact hissued s
    · exact ih moment hmem s

/-! ### What those who are gone hear -/

/-- What listeners of a session hear once they are gone, whatever programs do. -/
structure Parted (w : SessionWorld L U) (s : SessionRef) : Prop where
  /-- Every operation has a number of its own. -/
  numbers : (w.history.filterMap begun?).Nodup
  /-- Whoever is gone is not registered. -/
  notMem : Each (fun moment earlier ↦ ∀ id ∈ gone s (moment :: earlier),
    id ∉ (moment.sessions s).ids) w.history
  /-- A listener that is gone is not told of the close, and if it is told something else, then the
  operation that tells it had found it registered: this was before it was gone. -/
  heard : Each (fun moment earlier ↦ ∀ registration notice,
    moment.event = .called (.notify registration s notice) → registration.id ∈ gone s earlier →
      (∀ reason, notice ≠ .close reason) ∧
        ∃ during herald before, earlier = during ++ herald :: before ∧ herald.call = moment.call ∧
          herald.event.Heralds s notice ∧ registration.id ∈ (herald.sessions s).ids ∧
          registration.id ∉ gone s (herald :: before) ∧ registration.id ∈ gone s during) w.history

/-- Nobody is told of the close who is gone. -/
theorem Steps.ne_close_of_gone (h : Steps (.fresh user) w) {later earlier : List (SessionMoment L)}
    {moment : SessionMoment L} (hsplit : w.history = later ++ moment :: earlier)
    {registration : Registration L} {reason : CloseReason}
    (hevent : moment.event = .called (.notify registration s (.close reason))) :
    registration.id ∉ gone s earlier := by
  have hledger := (Steps.kept h).always.split hsplit s
  have hnodup := (List.nodup_append.1 hledger.nodup).2.1
  have hdismissed : moment.event.dismissed? s = some registration.id := by
    rw [hevent]
    exact if_pos rfl
  have htaken : moment.event.taken? s = none := by
    rw [hevent]
    rfl
  rw [dismissals_cons, removals_cons, hdismissed, htaken] at hnodup
  exact (List.nodup_cons.1 hnodup).1

/-- What is heralded came from an operation that had found the listener registered, so before it was gone.
-/
theorem Steps.parted (h : Steps (.fresh user) w) (hheralded : Each Heralded w.history)
    (s : SessionRef) : w.Parted s where
  numbers := (Steps.numbered h).begun
  notMem := (Steps.kept h).always.imp fun moment earlier hledger id hmem ↦
    (hledger s).not_mem_ids hmem
  heard := by
    refine Each.of_split fun later moment earlier hsplit registration notice hevent hgone ↦ ?_
    have hclose : ∀ reason, notice ≠ .close reason := by
      rintro reason rfl
      exact Steps.ne_close_of_gone h hsplit hevent hgone
    refine ⟨hclose, ?_⟩
    obtain ⟨herald, hmem, hcall, hheralds, hlisted⟩ :=
      hheralded.split hsplit registration s notice hevent hclose
    obtain ⟨during, before, rfl⟩ := List.append_of_mem hmem
    have hsplit' : w.history = (later ++ moment :: during) ++ herald :: before := by
      rw [hsplit, List.append_assoc, List.cons_append]
    obtain ⟨entry, hentry, rfl⟩ := List.mem_map.1 hlisted
    have hids : entry.2.id ∈ (herald.sessions s).ids := by
      have hissued := Steps.issued_of_mem h herald (hsplit' ▸ by simp) s
      rw [hissued.own entry hentry]
      exact List.mem_map_of_mem hentry
    -- The herald shows the listener among those registered, and who is gone is not one of them.
    have hstill : entry.2.id ∉ SessionMoment.gone s (herald :: before) := fun hgone ↦
      ((Steps.kept h).always.split hsplit' s).not_mem_ids hgone hids
    refine ⟨during, herald, before, rfl, hcall, hheralds, hids, hstill, ?_⟩
    exact (mem_gone_append.1 hgone).resolve_right hstill

end SessionWorld

/-- **Who is gone hears only of what was on its way.** Whatever programs do with new sessions, and
whatever their protocols and listeners call back, a listener that was told of the close or taken out
on demand is not told of a close again, and it is told of something else only by an operation that
found it registered before. -/
theorem SessionProgram.parted_run {L U : Type} (user : U) (program : SessionProgram L U)
    (s : SessionRef) : (program.run (.fresh user)).2.Parted s :=
  SessionWorld.Steps.parted (program.steps_run user)
    ((SessionWorld.extending_program program (.fresh user)).heralded trivial) s

/-- Two listeners, of which the first one takes out the second one when a message arrives. -/
def SessionProgram.rivals : SessionProgram Unit Unit :=
  .call ⟨0⟩ (.addListener ()) (fun _ ↦ .done (.ok ())) fun first ↦
    .call ⟨0⟩ (.addListener ()) (fun _ ↦ .done (.ok ())) fun second ↦
      .call ⟨0⟩ (.onMessage (.binary []))
        (fun
          | .notify registration s _ =>
            if registration.id = first then
              .call s (.removeListener second) (fun _ ↦ .done (.ok ())) fun _ ↦ .done (.ok ())
            else .done (.ok ())
          | _ => .done (.ok ()))
        fun _ ↦ .done (.ok ())

/-- It is not so that who is gone hears of nothing more: the second listener still gets the message. -/
theorem SessionProgram.not_forall_silent :
    ¬ ∀ (L U : Type) (user : U) (program : SessionProgram L U) (s : SessionRef),
      SessionMoment.Each (fun moment earlier ↦ ∀ registration notice,
        moment.event = .called (.notify registration s notice) →
          registration.id ∉ SessionMoment.gone s earlier) (program.run (.fresh user)).2.history := by
  intro h
  -- The history ends with the notice to the second listener, its return and the end of the operation.
  obtain ⟨-, -, hsecond, -⟩ := h Unit Unit () rivals ⟨0⟩
  exact hsecond ⟨⟨2⟩, ()⟩ (.message (.binary [])) rfl List.mem_cons_self

end Conduit
