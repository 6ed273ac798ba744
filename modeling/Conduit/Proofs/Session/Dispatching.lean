import Conduit.Proofs.Chain.Uses
import Conduit.Session.Dispatch

/-!
# Frames on their way to sessions

A frame is left in an attribute of the invocation, by whoever holds the instance or by a stage, until
the stage that hands frames on comes by. This stage may stand at any number of places in a chain, among
stages of which nothing is known, and the session that it finds may be in any state.

Each visit of the stage takes the frame out, and comes to exactly one call of the operation for its kind
if there is a session (`SessionDispatch.Hands`). As the stage leaves no frame behind, and no use of an
instance begins with one, a frame that is found was put there in the same use, and after the last visit
of the stage (`SessionDispatch.Awaits`). So no frame is handed on twice or gets into another use, however
the use before ended.

A close frame is the end of its pass: the pass is stopped if the session could take it. It fails if the
frame could not be sent back, or if there is no session (`Relay.not_forall_stopped`).
-/

namespace Conduit

/-! ### Frames and operations -/

/-- What a session hears of its peer in a frame. -/
inductive Arrival where
  /-- A complete message. -/
  | message (frame : Frame)
  /-- A piece of a message. -/
  | fragment (frame : Frame)
  /-- A ping. -/
  | ping (payload : Bytes)
  /-- A pong. -/
  | pong (payload : Bytes)
  /-- A close frame. -/
  | close (reason : CloseReason)

namespace Frame

/-- What a frame is to a session. -/
def arrival (frame : Frame) : Arrival :=
  match frame.kind with
  | .text | .binary => if frame.final then .message frame else .fragment frame
  | .continuation => .fragment frame
  | .ping => .ping frame.payload
  | .pong => .pong frame.payload
  | .close => .close (frame.asClose?.getD .normal)

/-- How a chain goes on behind a frame that a session has taken. -/
def directive (frame : Frame) : Directive :=
  if frame.kind = .close then .stop else .invoke

end Frame

/-- Calls the operation of a session for what has arrived. -/
def SessionHost.arrive {W L : Type} (host : SessionHost W L) (s : SessionRef) :
    Arrival → StateM W (Except Fault Unit)
  | .message frame => do
    host.onMessage s frame
    return .ok ()
  | .fragment frame => do
    host.onFragment s frame
    return .ok ()
  | .ping payload => host.onPing s payload
  | .pong payload => do
    host.onPong s payload
    return .ok ()
  | .close reason => host.onClose s reason

namespace SessionDispatch

variable {W S L : Type} {host : ChainHost W S} {chain : Chain S} {ref : PoolRef}
  {sessions : SessionHost W L} {stage : SessionDispatch} {d : S}

/-! ### One visit -/

/-- Handing a frame to a session is one call of the operation for it. -/
theorem deliver_eq (sessions : SessionHost W L) (s : SessionRef) (frame : Frame) (w : W) :
    deliver sessions s frame w =
      (((sessions.arrive s frame.arrival w).1.map fun () ↦ frame.directive),
        (sessions.arrive s frame.arrival w).2) := by
  rcases frame with ⟨kind, payload, final⟩
  cases kind with
  | text => cases final <;> rfl
  | binary => cases final <;> rfl
  | _ => rfl

/-- What comes of a frame: a call of the operation for it, if a session is bound. -/
def told (sessions : SessionHost W L) (stage : SessionDispatch) (visit : StageVisit W S)
    (frame : Frame) : Except Fault Unit :=
  match visit.view.connection.peek stage.session with
  | none => .error missingFault
  | some s => (sessions.arrive s frame.arrival visit.before).1

/-- What the stage makes of what it is shown. -/
structure Hands (sessions : SessionHost W L) (stage : SessionDispatch) (visit : StageVisit W S) :
    Prop where
  /-- The frame is taken out, and nothing else is changed. -/
  taken : visit.left =
    { visit.view with invocation := visit.view.invocation.erase stage.frame } ∧
    visit.left.invocation.isSet stage.frame = false
  /-- Without a frame the stage goes on and calls nothing. -/
  idle : visit.view.invocation.value? stage.frame = none →
    visit.answer = .ok (.ok .invoke) ∧ visit.after = visit.before
  /-- A frame without a session is a failure, and nothing is called. -/
  missing : ∀ frame, visit.view.invocation.value? stage.frame = some frame →
    visit.view.connection.peek stage.session = none →
    visit.answer = .ok (.error missingFault) ∧ visit.after = visit.before
  /-- A frame and a session come to one call of the operation for the frame. -/
  called : ∀ frame s, visit.view.invocation.value? stage.frame = some frame →
    visit.view.connection.peek stage.session = some s →
    visit.answer =
      .ok ((sessions.arrive s frame.arrival visit.before).1.map fun () ↦ frame.directive) ∧
    visit.after = (sessions.arrive s frame.arrival visit.before).2

/-- **What the stage does in one visit**. -/
theorem hands_visit (hd : host.process d = process sessions stage) (view : StageView) (w : W) :
    stage.Hands sessions (host.visit d view w) where
  taken := by
    have hleft : (host.visit d view w).left =
        { view with invocation := view.invocation.erase stage.frame } := by
      simp only [ChainHost.visit, hd, process, AttributeStore.remove]
      split <;> rfl
    exact ⟨hleft, by rw [hleft]; exact view.invocation.isSet_erase stage.frame⟩
  idle hvalue := by
    have hvalue' : view.invocation.value? stage.frame = none := hvalue
    simp only [ChainHost.visit, hd, process, AttributeStore.remove, hvalue']
    exact ⟨rfl, rfl⟩
  missing frame hvalue hpeek := by
    have hvalue' : view.invocation.value? stage.frame = some frame := hvalue
    have hpeek' : view.connection.peek stage.session = none := hpeek
    simp only [ChainHost.visit, hd, process, AttributeStore.remove, hvalue', hpeek']
    exact ⟨rfl, rfl⟩
  called frame s hvalue hpeek := by
    have hvalue' : view.invocation.value? stage.frame = some frame := hvalue
    have hpeek' : view.connection.peek stage.session = some s := hpeek
    simp only [ChainHost.visit, hd, process, AttributeStore.remove, hvalue', hpeek', bind,
      StateT.bind, deliver_eq]
    exact ⟨rfl, rfl⟩

/-! ### One pass -/

section Tour

variable {pass left : Pass} {w w' : W} {visits : List (StageVisit W S)} {visit : StageVisit W S}
  {outcome : Except Panic PassEnd}

/-- Every visit of the stage on a pass is such a visit. -/
theorem hands_of_mem (hd : host.process d = process sessions stage)
    (htour : chain.Tour host pass w visits outcome left w') (hmem : visit ∈ visits)
    (htag : visit.tag = d) : stage.Hands sessions visit := by
  obtain ⟨st, -, hvisit⟩ := htour.asked visit hmem
  have hst : st.tag = d := (congrArg StageVisit.tag hvisit).symm.trans htag
  rw [hvisit, hst]
  exact hands_visit hd visit.view visit.before

/-- No frame is left for the next stage. -/
theorem Hands.value?_left (h : stage.Hands sessions visit) :
    visit.left.invocation.value? stage.frame = none := by
  rw [h.taken.1]
  exact visit.view.invocation.value?_erase stage.frame

/-- A stage that takes a frame answers as the session did, or fails for want of one. -/
theorem Hands.answer_eq (h : stage.Hands sessions visit) {frame : Frame}
    (hframe : visit.view.invocation.value? stage.frame = some frame) :
    visit.answer = .ok ((stage.told sessions visit frame).map fun () ↦ frame.directive) := by
  rw [told]
  split
  · next hpeek => exact (h.missing frame hframe hpeek).1
  · next s hpeek => exact (h.called frame s hframe hpeek).1

/-- A pass in which a frame leads to a failure ends with it. -/
theorem Hands.ends_of_error (h : stage.Hands sessions visit)
    (htour : chain.Tour host pass w visits outcome left w') (hmem : visit ∈ visits) {frame : Frame}
    (hframe : visit.view.invocation.value? stage.frame = some frame) {fault : Fault}
    (htold : stage.told sessions visit frame = .error fault) :
    visits.getLast? = some visit ∧
      ∃ st, chain.stages[visit.view.stageIndex]? = some st ∧
        outcome = .ok (.failed ⟨chain.name, visit.view.stageIndex, st.label,
          StageFailure.failedFault fault⟩) := by
  have hanswer : visit.answer = .ok (.error fault) := by rw [h.answer_eq hframe, htold]; rfl
  have hlast := htour.getLast?_of_stops hmem (by simp [hanswer]) (by simp [hanswer])
  exact ⟨hlast, (htour.of_getLast hlast).closed.of_fault hanswer⟩

/-- A pass in which a close frame was taken ends there, whatever came of it. -/
theorem Hands.ends_of_close (h : stage.Hands sessions visit)
    (htour : chain.Tour host pass w visits outcome left w') (hmem : visit ∈ visits) {frame : Frame}
    (hframe : visit.view.invocation.value? stage.frame = some frame) (hclose : frame.kind = .close) :
    visits.getLast? = some visit ∧
      (stage.told sessions visit frame = .ok () →
        outcome = .ok (.stopped visit.view.stageIndex)) := by
  have hanswer := h.answer_eq hframe
  rw [Frame.directive, if_pos hclose] at hanswer
  rcases htold : stage.told sessions visit frame with fault | done
  · exact ⟨(h.ends_of_error htour hmem hframe htold).1, nofun⟩
  · rw [htold] at hanswer
    have hlast := htour.getLast?_of_stops hmem (by simp [hanswer, Except.map])
      (by simp [hanswer, Except.map])
    exact ⟨hlast, fun _ ↦ (htour.of_getLast hlast).closed.of_stop hanswer⟩

end Tour

/-! ### One use -/

/-- A frame was put where the stage looks for it, by someone else, and since then it has been there and
the stage has not come by. -/
def Awaits (stage : SessionDispatch) (d : S) (past : List (UseStep W S)) (frame : Frame) : Prop :=
  ∃ earlier setter since, past = earlier ++ setter :: since ∧
    setter.found.value? stage.frame ≠ some frame ∧
    ∀ step ∈ setter :: since, step.left.value? stage.frame = some frame ∧ ¬step.Visits d

/-- What a use amounts to in which frames are handed on. -/
structure Dispatched (host : ChainHost W S) (chain : Chain S) (ref : PoolRef)
    (sessions : SessionHost W L) (stage : SessionDispatch) (d : S) (use : InstanceUse W S) :
    Prop where
  /-- Nothing of an earlier use is left in the instance. -/
  rested : use.acquired.Rested
  /-- The passes are those of the chain, each one going on where the one before was suspended. -/
  spent : Chain.Spent host chain ref use.acquired.invocation use.passes
  /-- Whenever the stage is visited, it hands on the frame that it finds. -/
  hands : ∀ pass ∈ use.passes, ∀ visit ∈ pass.visits, visit.tag = d → stage.Hands sessions visit
  /-- A frame that anyone finds was put there in the same use, and has not been handed on. -/
  awaited : ∀ past step later frame, use.steps = past ++ step :: later →
    step.found.value? stage.frame = some frame → stage.Awaits d past frame
  /-- A frame that leads to a failure is the end of the pass. -/
  failed : ∀ pass ∈ use.passes, ∀ visit ∈ pass.visits, visit.tag = d → ∀ frame fault,
    visit.view.invocation.value? stage.frame = some frame →
    stage.told sessions visit frame = .error fault →
    pass.visits.getLast? = some visit ∧
      ∃ st, chain.stages[visit.view.stageIndex]? = some st ∧
        pass.ending = .ok (.error ⟨chain.name, visit.view.stageIndex, st.label,
          StageFailure.failedFault fault⟩)
  /-- A close frame is the end of the pass in any case, which is stopped unless it fails. -/
  closed : ∀ pass ∈ use.passes, ∀ visit ∈ pass.visits, visit.tag = d → ∀ frame,
    visit.view.invocation.value? stage.frame = some frame → frame.kind = .close →
    pass.visits.getLast? = some visit ∧
      (stage.told sessions visit frame = .ok () →
        pass.ending = .ok (.ok (.stopped visit.view.stageIndex)))

section Use

variable {use : InstanceUse W S}

/-- In a use that begins without a frame, a frame that is found is one that awaits the stage. -/
theorem awaits_of_found
    (hhands : ∀ pass ∈ use.passes, ∀ visit ∈ pass.visits, visit.tag = d → stage.Hands sessions visit)
    (hlinked : UseStep.Linked use.acquired.invocation use.steps)
    (hblank : use.acquired.invocation.Blank) {past later : List (UseStep W S)} {step : UseStep W S}
    {frame : Frame} (hsplit : use.steps = past ++ step :: later)
    (hframe : step.found.value? stage.frame = some frame) : stage.Awaits d past frame := by
  have hfirst : use.acquired.invocation.value? stage.frame ≠ some frame := by
    simp [hblank.value?_eq_none stage.frame]
  rw [hsplit] at hlinked
  obtain ⟨earlier, setter, since, rfl, hnot, hput, hsince⟩ :=
    hlinked.exists_put (fun store ↦ store.value? stage.frame) hfirst hframe
  refine ⟨earlier, setter, since, rfl, hnot, fun other hmem ↦ ?_⟩
  have hleft : other.left.value? stage.frame = some frame := by
    rcases List.mem_cons.1 hmem with rfl | hmem
    · exact hput
    · exact (hsince other hmem).2
  refine ⟨hleft, fun htag ↦ ?_⟩
  -- The stage itself leaves no frame behind.
  cases other with
  | prepared _ _ => exact htag
  | visited visit =>
    have hsteps : UseStep.visited visit ∈ use.steps := by
      rw [hsplit]
      exact List.mem_append_left _ (List.mem_append_right _ hmem)
    obtain ⟨pass, hpass, hvisit⟩ := InstanceUse.exists_of_mem_steps hsteps
    have hnone := (hhands pass hpass visit hvisit htag).value?_left
    rw [UseStep.left, hnone] at hleft
    cases hleft

/-- A use whose passes were made one after another dispatches frames on each of them. -/
theorem dispatched_of_spent (hd : host.process d = process sessions stage)
    (hrested : use.acquired.Rested)
    (hspent : Chain.Spent host chain ref use.acquired.invocation use.passes) :
    Dispatched host chain ref sessions stage d use := by
  have hhands : ∀ pass ∈ use.passes, ∀ visit ∈ pass.visits, visit.tag = d →
      stage.Hands sessions visit := by
    intro pass hpass visit hmem htag
    obtain ⟨outcome, left, w', htour, -⟩ := hspent.tour hpass
    exact hands_of_mem hd htour hmem htag
  refine ⟨hrested, hspent, hhands, fun _ _ _ _ ↦ awaits_of_found hhands hspent.linked hrested.2,
    ?_, ?_⟩
  · intro pass hpass visit hmem htag frame fault hframe htold
    obtain ⟨outcome, left, w', htour, hending⟩ := hspent.tour hpass
    obtain ⟨hlast, st, hst, houtcome⟩ :=
      (hhands pass hpass visit hmem htag).ends_of_error htour hmem hframe htold
    exact ⟨hlast, st, hst, by rw [hending, houtcome]; rfl⟩
  · intro pass hpass visit hmem htag frame hframe hclose
    obtain ⟨outcome, left, w', htour, hending⟩ := hspent.tour hpass
    obtain ⟨hlast, houtcome⟩ :=
      (hhands pass hpass visit hmem htag).ends_of_close htour hmem hframe hclose
    exact ⟨hlast, fun htold ↦ by rw [hending, houtcome htold]; rfl⟩

end Use

end SessionDispatch

/-! ### A relay -/

/-- What the stages of a relay do. -/
inductive RelayStage where
  /-- Puts a frame. -/
  | decode (frame : Frame)
  /-- Answers, and does nothing else. -/
  | answer (directive : Directive)
  /-- Hands a frame on. -/
  | dispatch

/-- A pool and a session. -/
structure Relay where
  /-- The pool. -/
  pool : ChainPool RelayStage
  /-- The session. -/
  session : Session Unit

namespace Relay

/-- The attributes of the frame and of the session. -/
def attributes : SessionDispatch :=
  ⟨⟨0, "spindle.session.frame", 1, .absent⟩, ⟨1, "spindle.session.handle", 1, .absent⟩⟩

/-- The failure to send a close frame. -/
def brokenFault : Fault where
  code := Fault.Code.protocolSend
  message := "broken pipe"

/-- The session of a relay. Its protocol can send everything but a close frame. -/
def sessions : SessionHost Relay Unit where
  session _ :=
    { read := Relay.session
      write := fun session w ↦ { w with session } }
  protocol _ :=
    { send := fun _ ↦ pure (.ok ())
      close := fun _ ↦ pure (.error brokenFault)
      teardown := pure () }
  notify _ _ _ := pure ()

/-- The pool of a relay and its stages. -/
def host : ChainHost Relay RelayStage where
  pool _ :=
    { read := Relay.pool
      write := fun pool w ↦ { w with pool } }
  registry _ := .new 1 16
  process
    | .decode frame, view =>
      pure (.ok (.ok .invoke),
        { view with invocation := view.invocation.put attributes.frame frame })
    | .answer directive, view => pure (.ok (.ok directive), view)
    | .dispatch, view => attributes.process sessions view

/-- An action leaves the pool alone. -/
def Spares {A : Type} (action : StateM Relay A) : Prop :=
  ∀ w, (action w).2.pool = w.pool

namespace Spares

variable {A B : Type}

theorem pure (a : A) : Spares (pure a) :=
  fun _ ↦ rfl

theorem bind {action : StateM Relay A} {next : A → StateM Relay B} (h : Spares action)
    (hnext : ∀ a, Spares (next a)) : Spares (action >>= next) :=
  fun w ↦ (hnext (action w).1 (action w).2).trans (h w)

theorem forM {f : A → StateM Relay Unit} (h : ∀ a, Spares (f a)) (l : List A) :
    Spares (l.forM f) := by
  induction l with
  | nil => exact .pure ()
  | cons a l ih => exact (h a).bind fun () ↦ ih

/-- What is done to a session has nothing to do with the pool. -/
theorem run (s : SessionRef) (f : StateM (Session Unit) A) : Spares ((sessions.session s).run f) :=
  fun _ ↦ rfl

theorem announce (s : SessionRef) (notice : Notice) : Spares (sessions.announce s notice) :=
  fun w ↦ forM (fun _ ↦ .pure ()) w.session.listeners w

theorem onPing (s : SessionRef) (payload : Bytes) : Spares (sessions.onPing s payload) := by
  have hsend : Spares (sessions.sendPong s payload) := by
    refine bind (fun _ ↦ rfl) fun phase ↦ ?_
    split
    · exact .pure _
    · exact .pure _
  refine hsend.bind fun told ↦ ?_
  cases told with
  | ok => exact (announce s (.ping payload)).bind fun () ↦ .pure _
  | error fault => exact .pure _

theorem drainListeners (s : SessionRef) (reason : CloseReason) :
    Spares (sessions.drainListeners s reason) := by
  refine fun w ↦ forM (fun id ↦ (run s _).bind fun listener? ↦ ?_) _ w
  cases listener? with
  | some listener => exact .pure ()
  | none => exact .pure ()

theorem onClose (s : SessionRef) (reason : CloseReason) : Spares (sessions.onClose s reason) := by
  have htold : ∀ echoed : Except Fault Unit, Spares (do
      sessions.drainListeners s reason
      return echoed) :=
    fun echoed ↦ (drainListeners s reason).bind fun () ↦ .pure echoed
  refine (run s _).bind fun moved ↦ ?_
  cases moved with
  | ok => exact htold _
  | error phase =>
    have hfinish : Spares (sessions.finish s) := by
      refine (run s _).bind fun before ↦ ?_
      split
      · exact .pure ()
      · exact .pure ()
    exact hfinish.bind fun () ↦ htold (.ok ())

/-- Whatever arrives at the session, the pool is left alone. -/
theorem arrive (s : SessionRef) (arrival : Arrival) : Spares (sessions.arrive s arrival) := by
  cases arrival with
  | message frame => exact (announce s _).bind fun () ↦ .pure _
  | fragment frame => exact (announce s _).bind fun () ↦ .pure _
  | ping payload => exact onPing s payload
  | pong payload => exact (announce s _).bind fun () ↦ .pure _
  | close reason => exact onClose s reason

end Spares

/-- The stages of a relay leave its pool alone, and the stores that they are shown stay sound. -/
theorem trades_host : host.Trades ⟨0⟩ where
  lawful := ⟨fun _ _ ↦ rfl, fun _ ↦ rfl, fun _ _ _ ↦ rfl⟩
  process tag view w hview := by
    cases tag with
    | decode frame => exact ⟨.refl _, hview.connection, hview.invocation.put _ _⟩
    | answer directive => exact ⟨.refl _, hview⟩
    | dispatch =>
      have hhands : attributes.Hands sessions (host.visit .dispatch view w) :=
        SessionDispatch.hands_visit rfl view w
      have hpool : (host.process .dispatch view w).2.pool = w.pool := by
        show (host.visit .dispatch view w).after.pool = w.pool
        rcases hframe : view.invocation.value? attributes.frame with - | frame
        · rw [(hhands.idle hframe).2]
          rfl
        · rcases hpeek : view.connection.peek attributes.session with - | s
          · rw [(hhands.missing frame hframe hpeek).2]
            rfl
          · rw [(hhands.called frame s hframe hpeek).2]
            exact Spares.arrive s frame.arrival w
      have hleft : (host.process .dispatch view w).1.2 =
          { view with invocation := view.invocation.erase attributes.frame } := hhands.taken.1
      refine ⟨?_, ?_⟩
      · show ChainPool.Exchanges w.pool (host.process .dispatch view w).2.pool
        rw [hpool]
        exact .refl _
      · rw [hleft]
        exact ⟨hview.connection, hview.invocation.erase _⟩

/-- A chain that decodes a close frame and hands it on, with a stage behind. -/
def chain : Chain RelayStage where
  name := "main"
  stages := [⟨"decode", .decode (.close .normal)⟩, ⟨SessionDispatch.label, .dispatch⟩,
    ⟨"after", .answer .invoke⟩]
  settings := { maxConsecutiveReruns := 1024 }

/-- A relay with a connected session. -/
def start : Relay :=
  ⟨{ chain }, { phase := .connected }⟩

/-- A pass for a message on a connection with the session. -/
def prepare (lease : Lease) : StateM Relay PassInput :=
  pure ⟨.read .empty, AttributeStore.detached.put attributes.session ⟨0⟩, lease.inst.invocation⟩

/-- One message. -/
def plan : UsePlan Relay :=
  ⟨pure (), [prepare]⟩

theorem trades_plan : plan.Trades host ⟨0⟩ where
  meanwhile w := .refl _
  prepared prepare' hmem lease w hsound := by
    obtain rfl := List.mem_singleton.1 hmem
    exact ⟨.refl _, AttributeStore.blank_detached.sound.put _ _, hsound⟩

end Relay

/-! ### All uses -/

/-- **Every frame is handed on at most once, and only in the use in which it was put.** This holds of
all chains with the stage in them, all sessions and all uses of the instances of a pool, whatever the
other stages, the sessions and the holders do. -/
theorem ChainHost.dispatched_uses {W S L : Type} {host : ChainHost W S} {ref : PoolRef}
    {chain : Chain S} {sessions : SessionHost W L} {stage : SessionDispatch} {d : S} {w : W}
    (hd : host.process d = SessionDispatch.process sessions stage) (htrades : host.Trades ref)
    (plans : List (UsePlan W)) (hplans : ∀ plan ∈ plans, plan.Trades host ref)
    (hpool : ChainPool.Exchanges { chain } ((host.pool ref).read w)) :
    ∀ use ∈ (host.uses ref plans w).1,
      SessionDispatch.Dispatched host chain ref sessions stage d use := by
  intro use hmem
  have htidy := hpool.tidy (ChainPool.tidy_new chain)
  obtain ⟨hrested, hspent⟩ := spent_uses htrades plans hplans htidy use hmem
  exact SessionDispatch.dispatched_of_spent hd hrested hspent

/-- Two messages for a chain that decodes a close frame and hands it on. -/
theorem Relay.dispatched_uses_relay :
    (host.process .dispatch = SessionDispatch.process sessions attributes ∧ host.Trades ⟨0⟩ ∧
      (∀ plan' ∈ [plan, plan], plan'.Trades host ⟨0⟩) ∧
      ChainPool.Exchanges { chain } ((host.pool ⟨0⟩).read start)) ∧
    ∀ use ∈ (host.uses ⟨0⟩ [plan, plan] start).1,
      SessionDispatch.Dispatched host chain ⟨0⟩ sessions attributes .dispatch use := by
  have hplans : ∀ plan' ∈ [plan, plan], plan'.Trades host ⟨0⟩ := by
    intro plan' hmem
    obtain rfl : plan' = plan := by simpa using hmem
    exact trades_plan
  exact ⟨⟨rfl, trades_host, hplans, .refl _⟩,
    ChainHost.dispatched_uses rfl trades_host [plan, plan] hplans (.refl _)⟩

/-- It is not so that a close frame always stops the pass: the pass fails if the frame cannot be sent
back. -/
theorem Relay.not_forall_stopped :
    ¬∀ use ∈ (host.uses ⟨0⟩ [plan] start).1, ∀ pass ∈ use.passes, ∀ visit ∈ pass.visits,
      visit.tag = .dispatch → ∀ frame s,
      visit.view.invocation.value? attributes.frame = some frame →
      visit.view.connection.peek attributes.session = some s → frame.kind = .close →
      pass.ending = .ok (.ok (.stopped visit.view.stageIndex)) := by
  let acquired := host.acquire ⟨0⟩ start
  let input := (prepare acquired.1 acquired.2).1
  let given := acquired.1.withInvocation input.invocation
  let pass : Pass := ⟨input.event, input.connection, given.inst⟩
  let decoded := host.visit (.decode (.close .normal)) (pass.view "main") acquired.2
  let next := (pass.update decoded.left).step
  let dispatched := host.visit .dispatch (next.view "main") decoded.after
  let failure : StageFailure :=
    ⟨"main", 1, SessionDispatch.label, StageFailure.failedFault brokenFault⟩
  have hrun : chain.run host pass acquired.2 =
      ((.ok (.failed failure), next.update dispatched.left), dispatched.after) := by
    rw [Chain.run_of_lt (by decide) rfl]
    exact Chain.run_of_lt (by decide) rfl
  have hvisits : chain.visitsOf host pass acquired.2 = [decoded, dispatched] := by
    rw [Chain.visitsOf, Chain.notesOf_of_lt host.visit (by decide) rfl]
    exact congrArg (decoded :: ·) (Chain.notesOf_of_lt host.visit (by decide) rfl)
  have hne : Except.ok (PassEnd.failed failure) ≠ (.ok .suspended : Except Panic PassEnd) := by
    simp
  have hexecute : host.execute given input.event input.connection acquired.2 = _ :=
    ChainHost.execute_of_ended hne hrun
  have hspend : host.spend acquired.1 [prepare] acquired.2 =
      ([host.passOn acquired.1 input acquired.2], _) :=
    ChainHost.spend_of_ended (fun next ↦ by simp [Lease.told]) rfl hexecute
  intro hstopped
  have hmem : InstanceUse.mk acquired.1.inst [host.passOn acquired.1 input acquired.2] ∈
      (host.uses ⟨0⟩ [plan] start).1 := by
    show _ ∈ InstanceUse.mk acquired.1.inst (host.spend acquired.1 [prepare] acquired.2).1 :: []
    rw [hspend]
    exact List.mem_cons_self
  have hvisit : dispatched ∈ (host.passOn acquired.1 input acquired.2).visits := by
    show dispatched ∈ chain.visitsOf host pass acquired.2
    rw [hvisits]
    exact List.mem_cons_of_mem _ List.mem_cons_self
  have hending := hstopped _ hmem _ List.mem_cons_self dispatched hvisit rfl (.close .normal) ⟨0⟩ rfl
    rfl rfl
  have hfailed : (host.passOn acquired.1 input acquired.2).ending = _ := congrArg (·.1.1) hexecute
  rw [hfailed] at hending
  cases hending

end Conduit
