import Conduit.Proofs.Connection.Turns

/-!
# Messages and the stages that read them

A message that a connection is given runs through the chain, or through what a suspended pass has left
of it. When the last stage has suspended the pass, nothing is left of it: the message is then the event
that ends the pass, no stage reads it, and the answer is that of a message which all stages let through
(`not_delivered_behind_last`). In every other turn the first stage that is visited reads the message
(`delivers_turns`).

Whether a pass has a stage left is told by where its instance stands (`Connection.Spent`). An instance
that is acquired stands at the first stage, and a chain has one.
-/

namespace Conduit

variable {W S : Type}

/-- The connection is suspended in a pass that has no stage left. -/
def Connection.Spent (chain : Chain S) (connection : Connection) : Prop :=
  ∃ lease, connection.suspended = some lease ∧ chain.stages.length ≤ lease.inst.cursor

namespace Turn

/-- What becomes of a message in its turn, after the last visit of the turn before. -/
structure Delivers (chain : Chain S) (previous : Option (StageVisit W S)) (turn : Turn W S)
    (message : Buffer) : Prop where
  /-- The first stage that is visited is shown the message, unless no stage is left. -/
  delivered : ¬ turn.found.Spent chain →
    ∃ visit, turn.visits.head? = some visit ∧ visit.view.event = .read message
  /-- When no stage is left, the message is let through without being shown to anyone. -/
  passedOver : turn.found.Spent chain →
    turn.visits = [] ∧ turn.answer = .ok (.ok .invoke) ∧ turn.left.suspended = none
  /-- No stage is left when it was the last one that suspended the pass. -/
  spent_iff : turn.found.Spent chain ↔ turn.found.isSuspended = true ∧
    ∃ visit, previous = some visit ∧ visit.answer = .ok (.ok .suspend) ∧
      chain.stages.length ≤ visit.view.stageIndex + 1

end Turn

namespace Passage

variable {host : ConnectionHost W S} {ref : PoolRef} {chain : Chain S} {pass : Pass}
  {pool pool' : ChainPool S} {visits : List (StageVisit W S)} {answer : Connection.Answer}
  {left : Connection}

/-- A pass with a stage left begins by showing the event to that stage. -/
theorem exists_head (h : Passage host ref chain pass pool visits answer left pool')
    (hcursor : pass.inst.cursor < chain.stages.length) :
    ∃ visit, visits.head? = some visit ∧ visit.view.event = pass.event := by
  rcases visits with - | ⟨visit, visits⟩
  · exact absurd (h.stages.1 rfl) (Nat.not_le.2 hcursor)
  · exact ⟨visit, rfl, congrArg StageView.event (h.first visit rfl).1⟩

/-- A pass without a stage left is complete, and nobody has seen the event. -/
theorem of_le (h : Passage host ref chain pass pool visits answer left pool')
    (hcursor : chain.stages.length ≤ pass.inst.cursor) :
    visits = [] ∧ answer = .ok (.ok .invoke) ∧ left.suspended = none := by
  obtain rfl := h.stages.2 hcursor
  cases h.ends with
  | through _ hanswer _ hleft _ _ => exact ⟨rfl, hanswer, hleft⟩
  | suspended _ hlast => cases hlast
  | ended _ _ hlast => cases hlast

end Passage

/-- What is handed out by a tidy pool stands at the first stage. -/
theorem ChainPool.Tidy.cursor_acquire {chain : Chain S} {pool : ChainPool S} (h : Tidy chain pool)
    (registry : Registry) : (ChainPool.acquire registry pool).1.cursor = 0 := by
  rcases acquire_cases registry pool with ⟨inst, idle, hidle, heq⟩ | ⟨-, heq⟩
  · rw [heq]
    exact (h.rested inst (hidle ▸ List.mem_cons_self)).1.1
  · rw [heq]

/-- A chain that was put together has a stage. -/
theorem Chain.stages_pos_of_build {name : String} {stages : List (Stage S)}
    {settings : ChainSettings} {chain : Chain S} (h : Chain.build name stages settings = .ok chain) :
    0 < chain.stages.length := by
  unfold Chain.build at h
  split at h
  · cases h
  · next hne =>
    obtain rfl := Except.ok.inj h
    exact List.length_pos_iff.2 fun hnil ↦ hne (List.isEmpty_iff.2 hnil)

section Turns

variable {host : ConnectionHost W S} {ref : PoolRef} {chain : Chain S} {found : Connection}
  {previous : Option (StageVisit W S)} {w : W}

/-- Where a suspended pass stands is told by the visit that suspended it. -/
theorem Connection.Follows.spent_iff (h : found.Follows previous) :
    found.Spent chain ↔ found.isSuspended = true ∧
      ∃ visit, previous = some visit ∧ visit.answer = .ok (.ok .suspend) ∧
        chain.stages.length ≤ visit.view.stageIndex + 1 := by
  constructor
  · rintro ⟨lease, hlease, hcursor⟩
    obtain ⟨visit, hprevious, hanswer, hinst⟩ := h lease hlease
    rw [hinst] at hcursor
    exact ⟨by rw [Connection.isSuspended, hlease]; rfl, visit, hprevious, hanswer, hcursor⟩
  · rintro ⟨hsuspended, visit, hprevious, -, hcursor⟩
    obtain ⟨lease, hlease⟩ := Option.isSome_iff_exists.1 hsuspended
    obtain ⟨other, hother, -, hinst⟩ := h lease hlease
    obtain rfl := Option.some.inj (hprevious.symm.trans hother)
    exact ⟨lease, hlease, by rwa [hinst]⟩

/-- **The turn of a message.** -/
theorem Turn.delivers_of (hserves : host.Serves ref chain) (hstages : 0 < chain.stages.length)
    (h : found.Stands host ref chain w) (hfollows : found.Follows previous) (message : Buffer) :
    (Turn.of host (.message message) found w).Delivers chain previous message := by
  have hhandles : (ConnectionOp.message message).Handles found := trivial
  rw [Turn.of_handles hhandles]
  rcases hsuspended : found.suspended with - | lease
  · have hpassage := h.passage_of_none hserves.toApart hsuspended (.read message)
    have hcursor := h.tidy.cursor_acquire (host.registry w)
    refine ⟨fun _ ↦ hpassage.exists_head (hcursor ▸ hstages), ?_, hfollows.spent_iff⟩
    rintro ⟨lease, hlease, -⟩
    rw [hsuspended] at hlease
    cases hlease
  · have hpassage := h.passage_of_suspended hserves.toApart hsuspended (.read message)
    refine ⟨fun hleft ↦ hpassage.exists_head ?_, ?_, hfollows.spent_iff⟩
    · by_contra hcursor
      exact hleft ⟨lease, hsuspended, Nat.not_lt.1 hcursor⟩
    · rintro ⟨other, hother, hcursor⟩
      obtain rfl := Option.some.inj (hsuspended.symm.trans hother)
      exact hpassage.of_le hcursor

namespace ConnectionHost

/-- **Every message is read by a stage, unless the pass that it goes on with has none left.** -/
theorem delivers_turns (hserves : host.Serves ref chain) {name : String} {stages : List (Stage S)}
    {settings : ChainSettings} (hchain : Chain.build name stages settings = .ok chain)
    (preparations : List (Connection → StateM W (StoreEdit × ConnectionOp)))
    (hprepared : ∀ prepare ∈ preparations, ∀ connection w,
      ((host.pool ref).read w).Tidy chain → ((host.pool ref).read (prepare connection w).2).Tidy chain)
    (htidy : ((host.pool ref).read w).Tidy chain) (id : ConnectionId) (registry : Registry)
    (earlier later : List (Turn W S)) (turn : Turn W S)
    (hturns : (host.turns (Connection.new id ref registry) preparations w).1 =
      earlier ++ turn :: later) (message : Buffer) (hmessage : turn.op = .message message) :
    turn.Delivers chain (Turn.lastVisit? none earlier) message := by
  have hstages := Chain.stages_pos_of_build hchain
  have hstands : (Connection.new id ref registry).Stands host ref chain w :=
    ⟨rfl, htidy, (AttributeStore.blank_new registry).sound, nofun⟩
  -- Along the turns, the connection stands and follows the last visit; only the message is of interest.
  refine turns_induction hserves
    (motive := fun previous turn ↦ turn.op = .message message → turn.Delivers chain previous message)
    (fun hfound hfollows op hop ↦ ?_) preparations hprepared hstands nofun hturns hmessage
  obtain rfl : op = .message message := hop
  exact Turn.delivers_of hserves hstages hfound hfollows message

/-- Two messages: the first stage suspends the pass on the first of them, and the stage behind it reads
the second. -/
theorem delivers_turns_suspendThenReply :
    let stages : List (Stage Directive) := [⟨"wait", .suspend⟩, ⟨"reply", .invoke⟩]
    let chain : Chain Directive := ⟨"greeting", stages, { maxConsecutiveReruns := 3 }⟩
    let message : Connection → StateM (ChainPool Directive) (StoreEdit × ConnectionOp) :=
      fun _ ↦ pure (⟨id, fun _ h ↦ h⟩, .message .empty)
    let new := Connection.new ⟨7⟩ ⟨0⟩ (.new 1 16)
    let first := Turn.of obedient (.message .empty) new { chain }
    let second := Turn.of obedient (.message .empty) first.left first.finish
    (Chain.build "greeting" stages { maxConsecutiveReruns := 3 } = .ok chain ∧
      ChainPool.Tidy chain { chain } ∧
      (obedient.turns new [message, message] { chain }).1 = [first] ++ second :: [] ∧
      second.op = .message .empty) ∧
      second.Delivers chain (Turn.lastVisit? none [first]) .empty := by
  intro stages chain message new first second
  have hprepared : ∀ prepare ∈ [message, message], ∀ connection w,
      ChainPool.Tidy chain w → ChainPool.Tidy chain (prepare connection w).2 := by
    intro prepare hmem connection w htidy
    obtain rfl : prepare = message := by simpa using hmem
    exact htidy
  have hbuild : Chain.build "greeting" stages { maxConsecutiveReruns := 3 } = .ok chain := rfl
  exact ⟨⟨hbuild, ChainPool.tidy_new chain, rfl, rfl⟩,
    delivers_turns (serves_obedient chain) hbuild [message, message] hprepared
      (ChainPool.tidy_new chain) ⟨7⟩ (.new 1 16) [first] [] second rfl .empty rfl⟩

/-- Two messages for a chain of one stage, which suspends the pass: the answer to the second message is
that of a message which all stages let through, but no stage reads it. -/
theorem not_delivered_behind_last :
    let chain : Chain Directive := ⟨"waiting", [⟨"wait", .suspend⟩], { maxConsecutiveReruns := 3 }⟩
    let message : Connection → StateM (ChainPool Directive) (StoreEdit × ConnectionOp) :=
      fun _ ↦ pure (⟨id, fun _ h ↦ h⟩, .message .empty)
    ∃ first second : Turn (ChainPool Directive) Directive,
      (obedient.turns (Connection.new ⟨7⟩ ⟨0⟩ (.new 1 16)) [message, message] { chain }).1 =
        [first, second] ∧
      second.op = .message .empty ∧ second.answer = .ok (.ok .invoke) ∧
      ¬ ∃ visit ∈ second.visits, visit.view.event = .read .empty := by
  intro chain message
  let new := Connection.new ⟨7⟩ ⟨0⟩ (.new 1 16)
  let first := Turn.of obedient (.message .empty) new { chain }
  let second := Turn.of obedient (.message .empty) first.left first.finish
  let acquired := obedient.acquire ⟨0⟩ { chain }
  let pass : Pass := ⟨.read .empty, new.attributes, acquired.1.inst⟩
  have hstands : new.Stands obedient ⟨0⟩ chain { chain } :=
    ⟨rfl, ChainPool.tidy_new chain, (AttributeStore.blank_new _).sound, nofun⟩
  have hfollows : new.Follows (W := ChainPool Directive) (S := Directive) none := nofun
  have hrun : chain.run obedient.toChainHost pass acquired.2 =
      ((.ok .suspended, pass.step), acquired.2) := by
    rw [Chain.run_of_lt (by decide) rfl]
    rfl
  have hpass : new.runPass obedient (.read .empty) acquired.1 acquired.2 = _ :=
    Connection.runPass_of_suspended hrun
  -- The suspended pass stands behind the only stage, so the second turn finds none left.
  have hspent : first.left.Spent chain :=
    ⟨⟨⟨0⟩, pass.step.inst⟩, congrArg (fun done ↦ done.1.2.suspended) hpass, by decide⟩
  have hsecond : second.Delivers chain first.visits.getLast? .empty :=
    Turn.delivers_of (serves_obedient chain) (by decide)
      (hstands.perform (serves_obedient chain) (.message .empty))
      (Turn.proper_of (serves_obedient chain) hstands hfollows (.message .empty)).2 .empty
  obtain ⟨hvisits, hanswer, -⟩ := hsecond.passedOver hspent
  refine ⟨first, second, rfl, rfl, hanswer, ?_⟩
  rintro ⟨visit, hmem, -⟩
  rw [hvisits] at hmem
  cases hmem

end ConnectionHost

end Turns

end Conduit
