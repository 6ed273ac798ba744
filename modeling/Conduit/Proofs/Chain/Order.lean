import Conduit.Proofs.Chain.Trace

/-!
# The order of calls

The stages of a chain are called from the first one on, each after the one before it. What was called
so far decides what may be called next (`Precedes`), and the last call of a pass decides how the pass
ends (`Closes`).

The invariant that carries this along a pass is `Awaits`: the calls so far are in order, and what
they lead to is the stage at which the instance stands, with the reruns that it has counted. It does
not mention the pass in which a call was made, so it also carries over from a suspended pass to the
one that resumes it.
-/

namespace Conduit

/-- What an answer is reported as, when a stage with that answer fails. `reruns` counts the reruns
that were asked for in a row, the last one included. -/
inductive FailsWith (limit reruns : Nat) : StageAnswer → Fault → Prop where
  /-- The stage failed. -/
  | fault (cause : Fault) : FailsWith limit reruns (.ok (.error cause))
      (StageFailure.failedFault cause)
  /-- The stage panicked. -/
  | panic (panic : Panic) : FailsWith limit reruns (.error panic)
      (StageFailure.panickedFault panic)
  /-- The stage asked too often to be run again. -/
  | rerun (h : limit < reruns) : FailsWith limit reruns (.ok (.ok .rerun))
      (StageFailure.rerunFault limit)

namespace FailsWith

variable {limit reruns : Nat} {answer : StageAnswer} {fault other : Fault}

/-- A failing answer is reported in one way. -/
theorem eq (h : FailsWith limit reruns answer fault) (h' : FailsWith limit reruns answer other) :
    fault = other := by
  cases h <;> cases h' <;> rfl

/-- No directive but a rerun fails. -/
theorem ne_directive (h : FailsWith limit reruns answer fault) {directive : Directive}
    (hne : directive ≠ .rerun) : answer ≠ .ok (.ok directive) := by
  rintro rfl
  cases h with
  | rerun => exact hne rfl

end FailsWith

namespace Chain

variable {S : Type}

/-- A call and the next one, after that many reruns in a row. -/
structure Precedes (chain : Chain S) (reruns : Nat) (call next : StageCall S) : Prop where
  /-- The same stage is called again when it asked for it. -/
  again : next.index = call.index ↔ call.answer = .ok (.ok .rerun)
  /-- The next stage is called when the stage went on or suspended its pass. -/
  onward : next.index = call.index + 1 ↔
    call.answer = .ok (.ok .invoke) ∨ call.answer = .ok (.ok .suspend)
  /-- Nothing is called after any other answer. -/
  either : next.index = call.index ∨ next.index = call.index + 1
  /-- Reruns stay within the limit. -/
  within : reruns ≤ chain.settings.maxConsecutiveReruns

/-- Calls of the stages of a chain in their order. -/
structure InOrder (chain : Chain S) (calls : List (StageCall S)) : Prop where
  /-- The first call is one of the first stage. -/
  first : ∀ call after, calls = call :: after → call.index = 0
  /-- A call is one of the stage at its position. -/
  known : ∀ call ∈ calls, ∃ stage, chain.stages[call.index]? = some stage ∧ stage.tag = call.tag
  /-- A call follows from the one before it. -/
  steps : ∀ before call next after, calls = before ++ call :: next :: after →
    chain.Precedes (StageCall.rerunsInARow (before ++ [call])) call next

/-- The calls so far lead to the stage at the cursor, after that many reruns of it. -/
structure Awaits (chain : Chain S) (calls : List (StageCall S)) (cursor reruns : Nat) : Prop where
  inOrder : chain.InOrder calls
  counted : StageCall.rerunsInARow calls = reruns
  within : reruns ≤ chain.settings.maxConsecutiveReruns
  first : calls = [] → cursor = 0
  steps : ∀ before call next, calls = before ++ [call] → next.index = cursor →
    chain.Precedes reruns call next

/-- The last call of a pass and how the pass ends, after that many reruns in a row. -/
inductive Closes (chain : Chain S) (reruns : Nat) (call : StageCall S) :
    Except Panic PassEnd → Prop where
  /-- The last stage went on. -/
  | completed (hlast : call.index + 1 = chain.stages.length)
      (hanswer : call.answer = .ok (.ok .invoke)) : Closes chain reruns call (.ok .completed)
  /-- The stage stopped the pass. -/
  | stopped (hanswer : call.answer = .ok (.ok .stop)) :
      Closes chain reruns call (.ok (.stopped call.index))
  /-- The stage suspended the pass. -/
  | suspended (hanswer : call.answer = .ok (.ok .suspend)) : Closes chain reruns call (.ok .suspended)
  /-- The stage failed. -/
  | failed {stage : Stage S} {fault : Fault} (hstage : chain.stages[call.index]? = some stage)
      (hfails : FailsWith chain.settings.maxConsecutiveReruns reruns call.answer fault) :
      Closes chain reruns call (.ok (.failed ⟨chain.name, call.index, stage.label, fault⟩))

variable {chain : Chain S} {past : List (StageCall S)} {cursor reruns : Nat} {call : StageCall S}

/-! ### What the last call says -/

namespace Closes

variable {outcome : Except Panic PassEnd}

/-- Of the stages that go on, only the last one ends a pass. -/
theorem index_of_invoke (h : chain.Closes reruns call outcome)
    (hanswer : call.answer = .ok (.ok .invoke)) : call.index + 1 = chain.stages.length := by
  cases h with
  | completed hlast _ => exact hlast
  | failed hstage hfails => exact absurd hanswer (hfails.ne_directive (by decide))
  | _ => simp_all

/-- A pass is completed when its last stage goes on. -/
theorem completed_iff (h : chain.Closes reruns call outcome) :
    outcome = .ok .completed ↔ call.answer = .ok (.ok .invoke) := by
  cases h with
  | completed hlast hanswer => simp [hanswer]
  | stopped hanswer => simp [hanswer]
  | suspended hanswer => simp [hanswer]
  | failed hstage hfails => simp [hfails.ne_directive (by decide : Directive.invoke ≠ .rerun)]

/-- A pass is stopped at the stage that asks for it. -/
theorem stopped_iff (h : chain.Closes reruns call outcome) {index : Nat} :
    outcome = .ok (.stopped index) ↔ call.index = index ∧ call.answer = .ok (.ok .stop) := by
  cases h with
  | completed hlast hanswer => simp [hanswer]
  | stopped hanswer => simp [hanswer]
  | suspended hanswer => simp [hanswer]
  | failed hstage hfails => simp [hfails.ne_directive (by decide : Directive.stop ≠ .rerun)]

/-- A pass is suspended by its last stage alone. -/
theorem suspended_iff (h : chain.Closes reruns call outcome) :
    outcome = .ok .suspended ↔ call.answer = .ok (.ok .suspend) := by
  cases h with
  | completed hlast hanswer => simp [hanswer]
  | stopped hanswer => simp [hanswer]
  | suspended hanswer => simp [hanswer]
  | failed hstage hfails => simp [hfails.ne_directive (by decide : Directive.suspend ≠ .rerun)]

/-- A failure names the chain, the stage and its position, and reports the answer. -/
theorem failed_iff (h : chain.Closes reruns call outcome) {failure : StageFailure} :
    outcome = .ok (.failed failure) ↔
      failure.chain = chain.name ∧
      (∃ stage, chain.stages[failure.index]? = some stage ∧ failure.label = stage.label) ∧
      call.index = failure.index ∧
      FailsWith chain.settings.maxConsecutiveReruns reruns call.answer failure.fault := by
  have hother : ∀ {directive : Directive}, call.answer = .ok (.ok directive) →
      directive ≠ .rerun → ¬FailsWith chain.settings.maxConsecutiveReruns reruns call.answer
        failure.fault :=
    fun hanswer hne hfails ↦ hfails.ne_directive hne hanswer
  cases h with
  | completed hlast hanswer => simp [hother hanswer]
  | stopped hanswer => simp [hother hanswer]
  | suspended hanswer => simp [hother hanswer]
  | @failed stage fault hstage hfails =>
    constructor
    · intro heq
      obtain rfl := PassEnd.failed.inj (Except.ok.inj heq)
      exact ⟨rfl, ⟨stage, hstage, rfl⟩, rfl, hfails⟩
    · rintro ⟨hname, ⟨found, hfound, hlabel⟩, hindex, hfault⟩
      rw [← hindex, hstage] at hfound
      obtain rfl := Option.some.inj hfound
      rw [hfails.eq hfault, ← hname, hindex, ← hlabel]

/-- A stage that panics fails the pass, and unwinds nothing. -/
theorem ne_error (h : chain.Closes reruns call outcome) (panic : Panic) :
    outcome ≠ .error panic := by
  cases h <;> simp

end Closes

/-! ### One call more -/

theorem awaits_nil : chain.Awaits [] 0 0 where
  inOrder :=
    { first := by simp
      known := by simp
      steps := by simp }
  counted := rfl
  within := Nat.zero_le _
  first _ := rfl
  steps := by simp

/-- A call that is awaited keeps the order. -/
theorem Awaits.inOrder_concat (h : chain.Awaits past cursor reruns) (hindex : call.index = cursor)
    (hknown : ∃ stage, chain.stages[call.index]? = some stage ∧ stage.tag = call.tag) :
    chain.InOrder (past ++ [call]) where
  first head after heq := by
    rcases past with - | ⟨first, rest⟩
    · obtain ⟨rfl, -⟩ := List.cons_eq_cons.1 heq
      rw [hindex]
      exact h.first rfl
    · obtain ⟨rfl, -⟩ := List.cons_eq_cons.1 heq
      exact h.inOrder.first first rest rfl
  known other hmem := by
    rcases List.mem_append.1 hmem with hmem | hmem
    · exact h.inOrder.known other hmem
    · obtain rfl := List.mem_singleton.1 hmem
      exact hknown
  steps before first second after heq := by
    -- The new pair is the one at the end; any other was there before.
    rcases List.eq_nil_or_concat after with rfl | ⟨between, last, rfl⟩
    · have hsplit : past ++ [call] = (before ++ [first]) ++ [second] := by simpa using heq
      obtain ⟨hpast, hcall⟩ := List.append_inj' hsplit rfl
      obtain rfl := List.singleton_inj.1 hcall
      rw [← hpast, h.counted]
      exact h.steps before first call hpast hindex
    · have hsplit : past ++ [call] = (before ++ first :: second :: between) ++ [last] := by
        simpa using heq
      obtain ⟨hpast, -⟩ := List.append_inj' hsplit rfl
      exact h.inOrder.steps before first second between hpast

/-- After a stage that went on or suspended its pass, the next stage is awaited. -/
theorem Awaits.onward (h : chain.Awaits past cursor reruns) (hindex : call.index = cursor)
    (hknown : ∃ stage, chain.stages[call.index]? = some stage ∧ stage.tag = call.tag)
    (hanswer : call.answer = .ok (.ok .invoke) ∨ call.answer = .ok (.ok .suspend)) :
    chain.Awaits (past ++ [call]) (cursor + 1) 0 where
  inOrder := h.inOrder_concat hindex hknown
  counted := by
    refine StageCall.rerunsInARow_append_other past fun hrerun ↦ ?_
    rcases hanswer with hanswer | hanswer <;> simp [hanswer] at hrerun
  within := Nat.zero_le _
  first hnil := by simp at hnil
  steps before last next heq hnext := by
    obtain ⟨-, hlast⟩ := List.append_inj' heq rfl
    obtain rfl := List.singleton_inj.1 hlast
    have hne : call.answer ≠ .ok (.ok .rerun) := by
      rcases hanswer with hanswer | hanswer <;> simp [hanswer]
    refine ⟨⟨fun hsame ↦ ?_, fun hrerun ↦ absurd hrerun hne⟩, ⟨fun _ ↦ hanswer, fun _ ↦ ?_⟩,
      Or.inr ?_, Nat.zero_le _⟩
    all_goals omega

/-- After a stage that asked for a rerun within the limit, the same stage is awaited. -/
theorem Awaits.again (h : chain.Awaits past cursor reruns) (hindex : call.index = cursor)
    (hknown : ∃ stage, chain.stages[call.index]? = some stage ∧ stage.tag = call.tag)
    (hanswer : call.answer = .ok (.ok .rerun))
    (hlimit : reruns < chain.settings.maxConsecutiveReruns) :
    chain.Awaits (past ++ [call]) cursor (reruns + 1) where
  inOrder := h.inOrder_concat hindex hknown
  counted := by rw [StageCall.rerunsInARow_append_rerun past hanswer, h.counted]
  within := hlimit
  first hnil := by simp at hnil
  steps before last next heq hnext := by
    obtain ⟨-, hlast⟩ := List.append_inj' heq rfl
    obtain rfl := List.singleton_inj.1 hlast
    refine ⟨⟨fun _ ↦ hanswer, fun _ ↦ by omega⟩, ⟨fun hnext' ↦ by omega, fun hother ↦ ?_⟩,
      Or.inl (by omega), hlimit⟩
    rw [hanswer] at hother
    simp at hother

/-! ### A whole pass -/

/-- How a pass goes, that follows on the calls before it: what it calls, how it ends, and the instance
as it leaves it. -/
inductive Passed (chain : Chain S) (past : List (StageCall S)) :
    List (StageCall S) → Except Panic PassEnd → ChainInstance → Prop where
  /-- No stage is left to be called. -/
  | through {inst : ChainInstance} : Passed chain past [] (.ok .completed) inst
  /-- A last call ends the pass. -/
  | closed {calls : List (StageCall S)} {call : StageCall S} {outcome : Except Panic PassEnd}
      {inst : ChainInstance} (hinOrder : chain.InOrder (past ++ (calls ++ [call])))
      (hcloses : chain.Closes (StageCall.rerunsInARow (past ++ (calls ++ [call]))) call outcome)
      (hresumed : outcome = .ok .suspended → inst.cursor = call.index + 1 ∧
        chain.Awaits (past ++ (calls ++ [call])) inst.cursor inst.consecutiveReruns) :
      Passed chain past (calls ++ [call]) outcome inst

/-- A call that ends its pass at once. -/
theorem Awaits.passed (h : chain.Awaits past cursor reruns) (hindex : call.index = cursor)
    (hknown : ∃ stage, chain.stages[call.index]? = some stage ∧ stage.tag = call.tag)
    {outcome : Except Panic PassEnd} {inst : ChainInstance} (hne : outcome ≠ .ok .suspended)
    (hcloses : chain.Closes (StageCall.rerunsInARow (past ++ [call])) call outcome) :
    chain.Passed past [call] outcome inst :=
  show chain.Passed past ([] ++ [call]) outcome inst from
    .closed (h.inOrder_concat hindex hknown) hcloses fun hsuspended ↦ absurd hsuspended hne

/-- A call that suspends its pass. -/
theorem Awaits.passed_suspended (h : chain.Awaits past cursor reruns) (hindex : call.index = cursor)
    (hknown : ∃ stage, chain.stages[call.index]? = some stage ∧ stage.tag = call.tag)
    (hanswer : call.answer = .ok (.ok .suspend)) {inst : ChainInstance}
    (hcursor : inst.cursor = cursor + 1) (hreruns : inst.consecutiveReruns = 0) :
    chain.Passed past [call] (.ok .suspended) inst := by
  have hnext := h.onward hindex hknown (Or.inr hanswer)
  refine show chain.Passed past ([] ++ [call]) (.ok .suspended) inst from
    .closed hnext.inOrder (.suspended hanswer) fun _ ↦ ⟨by omega, ?_⟩
  rw [hcursor, hreruns]
  exact hnext

/-- A call before a pass that makes more of them. -/
theorem Passed.cons {calls : List (StageCall S)} {outcome : Except Panic PassEnd}
    {inst : ChainInstance} (h : chain.Passed (past ++ [call]) calls outcome inst)
    (hne : calls ≠ []) : chain.Passed past (call :: calls) outcome inst := by
  cases h with
  | through => exact absurd rfl hne
  | @closed calls last outcome inst hinOrder hcloses hresumed =>
    have hsplit : past ++ [call] ++ (calls ++ [last]) = past ++ (call :: calls ++ [last]) := by
      simp
    rw [hsplit] at hinOrder hcloses hresumed
    exact .closed hinOrder hcloses hresumed

/-- **A pass keeps the order.** Whatever the stages do, a pass that starts at the stage that is
awaited makes its calls in order, and its last call says how it ends. -/
theorem Awaits.passed_callsOf {W : Type} (host : ChainHost W S)
    (hlimit : chain.settings.maxConsecutiveReruns + 1 < rerunCounterSize) {pass : Pass}
    (h : chain.Awaits past pass.inst.cursor pass.inst.consecutiveReruns) (w : W) :
    chain.Passed past (chain.callsOf host pass w) (chain.run host pass w).1.1
      (chain.run host pass w).1.2.inst := by
  induction pass using chain.pass_induction generalizing w past with
  | ended pass hcursor =>
    rw [callsOf_of_le host hcursor, run_of_le host hcursor]
    exact .through
  | atStage pass hcursor ihNext ihSame =>
    rcases hasked : host.process chain.stages[pass.inst.cursor].tag (pass.view chain.name) w with
      ⟨⟨answer, view⟩, w'⟩
    have hstage := List.getElem?_eq_getElem hcursor
    rw [callsOf_of_lt hcursor hasked, run_of_lt hcursor hasked]
    have hknown : ∃ stage, chain.stages[pass.inst.cursor]? = some stage ∧
        stage.tag = chain.stages[pass.inst.cursor].tag := ⟨_, hstage, rfl⟩
    rcases answer with panic | fault | directive
    · exact h.passed rfl hknown nofun (.failed hstage (.panic panic))
    · exact h.passed rfl hknown nofun (.failed hstage (.fault fault))
    · cases directive with
      | stop => exact h.passed rfl hknown nofun (.stopped rfl)
      | invoke =>
        show chain.Passed past (_ :: chain.callsOf host (pass.update view).step w')
          (chain.run host (pass.update view).step w').1.1
          (chain.run host (pass.update view).step w').1.2.inst
        -- Behind the last stage the pass is over, so this call is the one that ended it.
        by_cases hlast : chain.stages.length ≤ pass.inst.cursor + 1
        · rw [callsOf_of_le host hlast, run_of_le host hlast]
          refine h.passed rfl hknown nofun (.completed ?_ rfl)
          show pass.inst.cursor + 1 = chain.stages.length
          omega
        · exact (ihNext view (h.onward rfl hknown (Or.inl rfl)) w').cons
            (callsOf_ne_nil host (Nat.lt_of_not_le hlast) w')
      | rerun =>
        by_cases hmore : pass.inst.consecutiveReruns < chain.settings.maxConsecutiveReruns
        · have hstill : (pass.update view).again.inst.cursor < chain.stages.length := hcursor
          rw [judge_rerun_of_lt (Nat.lt_of_succ_lt hlimit) hmore]
          exact (ihSame (by omega) view (h.again rfl hknown rfl hmore) w').cons
            (callsOf_ne_nil host hstill w')
        · -- The count never goes past the limit, so it stands at it.
          have hover : pass.inst.consecutiveReruns = chain.settings.maxConsecutiveReruns :=
            Nat.le_antisymm h.within (Nat.le_of_not_lt hmore)
          rw [judge_rerun_of_eq hlimit hover]
          refine h.passed rfl hknown nofun (.failed hstage (.rerun ?_))
          rw [StageCall.rerunsInARow_append_rerun past rfl, h.counted, hover]
          exact Nat.lt_succ_self _
      | suspend => exact h.passed_suspended rfl hknown rfl rfl rfl

end Chain

end Conduit
