import Conduit.Proofs.Chain.Order
import Mathlib.Data.List.Chain

/-!
# Visits

A visit is a call of a stage in full: what the stage was shown, the state it was called in, and what it
left of both. The visits of a pass make a tour (`Chain.Tour`), which follows the recursion of the run;
every statement about visits is an induction on it. Nothing happens between two visits of a tour, so
what the first stage finds is what the pass began with, and what the last one leaves is what the pass
ends with.
-/

namespace Conduit

/-- A call of a stage, with all that it was given and that it left. -/
structure StageVisit (W S : Type) where
  /-- The tag of the stage. -/
  tag : S
  /-- What the stage was shown. -/
  view : StageView
  /-- The state in which it was called. -/
  before : W
  /-- Its answer. -/
  answer : StageAnswer
  /-- What it left of what it was shown. -/
  left : StageView
  /-- The state that it left. -/
  after : W

/-- The call that a visit is. -/
def StageVisit.call {W S : Type} (visit : StageVisit W S) : StageCall S :=
  ⟨visit.view.stageIndex, visit.tag, visit.answer⟩

/-- The instance with which a pass goes on that this visit suspended. -/
def StageVisit.onward {W S : Type} (visit : StageVisit W S) : ChainInstance where
  id := visit.view.instanceId
  cursor := visit.view.stageIndex + 1
  invocation := visit.left.invocation

/-- One visit comes right after another, with nothing in between; it is of the same stage or of the
next one. -/
structure StageVisit.Joins {W S : Type} (visit next : StageVisit W S) : Prop where
  before : next.before = visit.after
  event : next.view.event = visit.left.event
  connection : next.view.connection = visit.left.connection
  invocation : next.view.invocation = visit.left.invocation
  instanceId : next.view.instanceId = visit.view.instanceId
  stageIndex : visit.answer = .ok (.ok .rerun) ∧ next.view.stageIndex = visit.view.stageIndex ∨
    visit.answer = .ok (.ok .invoke) ∧ next.view.stageIndex = visit.view.stageIndex + 1

/-- The visit that calling a stage comes to. -/
def ChainHost.visit {W S : Type} (host : ChainHost W S) (tag : S) (view : StageView) (w : W) :
    StageVisit W S :=
  let asked := host.process tag view w
  ⟨tag, view, w, asked.1.1, asked.1.2, asked.2⟩

namespace Chain

variable {W S : Type}

/-- Only a stage that goes on is followed by the next one. -/
theorem eq_invoke_of_judge_eq_next {chain : Chain S} {index reruns : Nat} {stage : Stage S}
    {answer : StageAnswer} (h : chain.judge index stage reruns answer = .next) :
    answer = .ok (.ok .invoke) := by
  unfold judge at h
  split at h <;> try contradiction
  · rfl
  · split at h
    · contradiction
    · split at h <;> contradiction

/-- Only a stage that asks for it is called again. -/
theorem eq_rerun_of_judge_eq_same {chain : Chain S} {index reruns : Nat} {stage : Stage S}
    {answer : StageAnswer} (h : chain.judge index stage reruns answer = .same) :
    answer = .ok (.ok .rerun) := by
  unfold judge at h
  split at h <;> first | contradiction | rfl

/-- The visits of a pass. -/
def visitsOf (host : ChainHost W S) (chain : Chain S) (pass : Pass) (w : W) :
    List (StageVisit W S) :=
  chain.notesOf host host.visit pass w

/-- Where a pass goes on after a visit. -/
inductive Onward (chain : Chain S) (pass : Pass) (visit : StageVisit W S) : Pass → Prop where
  /-- To the next stage. -/
  | next (hanswer : visit.answer = .ok (.ok .invoke)) :
      Onward chain pass visit (pass.update visit.left).step
  /-- To the same stage. -/
  | same (hanswer : visit.answer = .ok (.ok .rerun)) :
      Onward chain pass visit (pass.update visit.left).again

/-- What is visited where a pass goes on comes right after the visit. -/
theorem Onward.joins {chain : Chain S} {pass next : Pass} {visit following : StageVisit W S}
    (h : chain.Onward pass visit next) (hview : visit.view = pass.view chain.name)
    (hbefore : following.before = visit.after) (hfollowing : following.view = next.view chain.name) :
    visit.Joins following := by
  have hid : visit.view.instanceId = pass.inst.id := congrArg StageView.instanceId hview
  have hindex : visit.view.stageIndex = pass.inst.cursor := congrArg StageView.stageIndex hview
  have hevent : following.view.event = next.event := congrArg StageView.event hfollowing
  have hconnection : following.view.connection = next.connection :=
    congrArg StageView.connection hfollowing
  have hinvocation : following.view.invocation = next.inst.invocation :=
    congrArg StageView.invocation hfollowing
  have hid' : following.view.instanceId = next.inst.id := congrArg StageView.instanceId hfollowing
  have hindex' : following.view.stageIndex = next.inst.cursor :=
    congrArg StageView.stageIndex hfollowing
  cases h with
  | next hanswer =>
    exact ⟨hbefore, hevent, hconnection, hinvocation, hid'.trans hid.symm,
      Or.inr ⟨hanswer, hindex'.trans (congrArg (· + 1) hindex.symm)⟩⟩
  | same hanswer =>
    exact ⟨hbefore, hevent, hconnection, hinvocation, hid'.trans hid.symm,
      Or.inl ⟨hanswer, hindex'.trans hindex.symm⟩⟩

/-- A pass and its visits: where it begins, whom it visits, how and where it ends. -/
inductive Tour (host : ChainHost W S) (chain : Chain S) :
    Pass → W → List (StageVisit W S) → Except Panic PassEnd → Pass → W → Prop where
  /-- No stage is left. -/
  | through {pass : Pass} {w : W} (h : chain.stages.length ≤ pass.inst.cursor) :
      Tour host chain pass w [] (.ok .completed) pass w
  /-- The last visit. -/
  | last {pass : Pass} {w : W} {visit : StageVisit W S} {outcome : Except Panic PassEnd}
      (h : pass.inst.cursor < chain.stages.length)
      (hvisit : visit = host.visit chain.stages[pass.inst.cursor].tag (pass.view chain.name) w)
      (hjudge : chain.judge pass.inst.cursor chain.stages[pass.inst.cursor]
        pass.inst.consecutiveReruns visit.answer = .finish outcome) :
      Tour host chain pass w [visit] outcome ((pass.update visit.left).leftBy outcome) visit.after
  /-- A visit before others. -/
  | more {pass next left : Pass} {w w' : W} {visit : StageVisit W S}
      {visits : List (StageVisit W S)} {outcome : Except Panic PassEnd}
      (h : pass.inst.cursor < chain.stages.length)
      (hvisit : visit = host.visit chain.stages[pass.inst.cursor].tag (pass.view chain.name) w)
      (honward : chain.Onward pass visit next)
      (rest : Tour host chain next visit.after visits outcome left w') :
      Tour host chain pass w (visit :: visits) outcome left w'

/-- **Every pass is a tour.** -/
theorem tour_run (host : ChainHost W S) (chain : Chain S) (pass : Pass) (w : W) :
    chain.Tour host pass w (chain.visitsOf host pass w) (chain.run host pass w).1.1
      (chain.run host pass w).1.2 (chain.run host pass w).2 := by
  induction pass using chain.pass_induction generalizing w with
  | ended pass hcursor =>
    rw [visitsOf, notesOf_of_le host host.visit hcursor, run_of_le host hcursor]
    exact .through hcursor
  | atStage pass hcursor ihNext ihSame =>
    rcases hasked : host.process chain.stages[pass.inst.cursor].tag (pass.view chain.name) w with
      ⟨⟨answer, view⟩, w'⟩
    have hvisit : StageVisit.mk chain.stages[pass.inst.cursor].tag (pass.view chain.name) w answer
        view w' = host.visit chain.stages[pass.inst.cursor].tag (pass.view chain.name) w := by
      simp only [ChainHost.visit, hasked]
    rw [visitsOf, notesOf_of_lt host.visit hcursor hasked, run_of_lt hcursor hasked, ← hvisit]
    cases hjudge : chain.judge pass.inst.cursor chain.stages[pass.inst.cursor]
        pass.inst.consecutiveReruns answer with
    | next =>
      exact .more hcursor hvisit (.next (eq_invoke_of_judge_eq_next hjudge)) (ihNext view w')
    | same =>
      exact .more hcursor hvisit (.same (eq_rerun_of_judge_eq_same hjudge))
        (ihSame (reruns_lt_of_judge_eq_same hjudge) view w')
    | finish outcome => exact .last hcursor hvisit hjudge

/-! ### How a pass ends -/

/-- An answer that ends a pass closes it, unless it makes the rerun counter run over. -/
theorem closes_of_judge {chain : Chain S} {call : StageCall S} {stage : Stage S}
    {index reruns : Nat} {outcome : Except Panic PassEnd} (hindex : call.index = index)
    (hstage : chain.stages[index]? = some stage)
    (h : chain.judge index stage reruns call.answer = .finish outcome) :
    chain.Closes (reruns + 1) call outcome ∨
      call.answer = .ok (.ok .rerun) ∧ outcome = .error .counterOverflow := by
  subst hindex
  rcases hanswer : call.answer with panic | cause | directive
  · rw [hanswer] at h
    obtain rfl := AfterStage.finish.inj h
    exact Or.inl (.failed hstage (hanswer ▸ .panic panic))
  · rw [hanswer] at h
    obtain rfl := AfterStage.finish.inj h
    exact Or.inl (.failed hstage (hanswer ▸ .fault cause))
  · rw [hanswer] at h
    cases directive with
    | stop =>
      obtain rfl := AfterStage.finish.inj h
      exact Or.inl (.stopped hanswer)
    | suspend =>
      obtain rfl := AfterStage.finish.inj h
      exact Or.inl (.suspended hanswer)
    | invoke => cases h
    | rerun =>
      rw [judge] at h
      split at h
      · obtain rfl := AfterStage.finish.inj h
        exact Or.inr ⟨rfl, rfl⟩
      · split at h
        · next hlimit =>
          obtain rfl := AfterStage.finish.inj h
          exact Or.inl (.failed hstage (hanswer ▸ .rerun hlimit))
        · cases h

/-- The last visit of a pass and how the pass ends. -/
def ClosedBy (chain : Chain S) (visit : StageVisit W S) (outcome : Except Panic PassEnd) : Prop :=
  (∃ reruns, chain.Closes reruns visit.call outcome) ∨
    visit.answer = .ok (.ok .rerun) ∧ outcome = .error .counterOverflow

namespace ClosedBy

variable {chain : Chain S} {visit : StageVisit W S} {outcome : Except Panic PassEnd}

/-- A pass is suspended exactly when the last stage suspended it. -/
theorem suspended_iff (h : chain.ClosedBy visit outcome) :
    outcome = .ok .suspended ↔ visit.answer = .ok (.ok .suspend) := by
  rcases h with ⟨reruns, hcloses⟩ | ⟨hanswer, rfl⟩
  · exact hcloses.suspended_iff
  · simp [hanswer]

/-- A pass that fails reports the answer of the last stage. -/
theorem fails (h : chain.ClosedBy visit outcome) {failure : StageFailure}
    (hfailed : outcome = .ok (.failed failure)) :
    ∃ reruns, FailsWith chain.settings.maxConsecutiveReruns reruns visit.answer failure.fault := by
  rcases h with ⟨reruns, hcloses⟩ | ⟨-, rfl⟩
  · obtain ⟨-, -, -, hfails⟩ := hcloses.failed_iff.1 hfailed
    exact ⟨reruns, hfails⟩
  · cases hfailed

/-- A stage that stops the pass ends it there. -/
theorem of_stop (h : chain.ClosedBy visit outcome) (hanswer : visit.answer = .ok (.ok .stop)) :
    outcome = .ok (.stopped visit.view.stageIndex) := by
  rcases h with ⟨reruns, hcloses⟩ | ⟨hrerun, -⟩
  · exact hcloses.stopped_iff.2 ⟨rfl, hanswer⟩
  · simp [hanswer] at hrerun

/-- A stage that fails ends the pass with a failure that names it. -/
theorem of_fault (h : chain.ClosedBy visit outcome) {cause : Fault}
    (hanswer : visit.answer = .ok (.error cause)) :
    ∃ st, chain.stages[visit.view.stageIndex]? = some st ∧
      outcome = .ok (.failed ⟨chain.name, visit.view.stageIndex, st.label,
        StageFailure.failedFault cause⟩) := by
  have hcall : visit.call.answer = .ok (.error cause) := hanswer
  rcases h with ⟨reruns, hcloses⟩ | ⟨hrerun, -⟩
  · cases hcloses with
    | completed _ hother => simp [hcall] at hother
    | stopped hother => simp [hcall] at hother
    | suspended hother => simp [hcall] at hother
    | @failed st fault hstage hfails =>
      rw [hcall] at hfails
      cases hfails
      exact ⟨st, hstage, rfl⟩
  · simp [hanswer] at hrerun

/-- A stage that fails ends the pass with its failure. -/
theorem of_error (h : chain.ClosedBy visit outcome) {cause : Fault}
    (hanswer : visit.answer = .ok (.error cause)) :
    ∃ failure, outcome = .ok (.failed failure) ∧
      failure.fault = StageFailure.failedFault cause := by
  obtain ⟨st, -, houtcome⟩ := h.of_fault hanswer
  exact ⟨_, houtcome, rfl⟩

end ClosedBy

/-- What the last visit of a pass leaves. -/
structure LeftAs (chain : Chain S) (visit : StageVisit W S) (outcome : Except Panic PassEnd)
    (left : Pass) (w' : W) : Prop where
  closed : chain.ClosedBy visit outcome
  state : w' = visit.after
  connection : left.connection = visit.left.connection
  invocation : left.inst.invocation = visit.left.invocation
  id : left.inst.id = visit.view.instanceId
  /-- A suspended pass goes on with the next stage. -/
  onward : outcome = .ok .suspended → left.inst = visit.onward

namespace Tour

variable {host : ChainHost W S} {chain : Chain S} {pass left : Pass} {w w' : W}
  {visits : List (StageVisit W S)} {visit : StageVisit W S} {outcome : Except Panic PassEnd}

/-- Nobody is visited exactly when no stage is left. -/
theorem eq_nil_iff (h : chain.Tour host pass w visits outcome left w') :
    visits = [] ↔ chain.stages.length ≤ pass.inst.cursor := by
  cases h with
  | through h => exact iff_of_true rfl h
  | last h _ _ => exact iff_of_false (List.cons_ne_nil _ _) (Nat.not_le.2 h)
  | more h _ _ _ => exact iff_of_false (List.cons_ne_nil _ _) (Nat.not_le.2 h)

/-- A pass without visits leaves everything as it is. -/
theorem of_nil (h : chain.Tour host pass w [] outcome left w') :
    outcome = .ok .completed ∧ left = pass ∧ w' = w := by
  cases h
  exact ⟨rfl, rfl, rfl⟩

/-- The first visit is made in the state in which the pass begins. -/
theorem of_head (h : chain.Tour host pass w visits outcome left w')
    (hhead : visits.head? = some visit) :
    visit.before = w ∧ visit.view = pass.view chain.name := by
  cases h with
  | through h => cases hhead
  | last h hvisit _ =>
    obtain rfl := Option.some.inj hhead
    rw [hvisit]
    exact ⟨rfl, rfl⟩
  | more h hvisit _ _ =>
    obtain rfl := Option.some.inj hhead
    rw [hvisit]
    exact ⟨rfl, rfl⟩

/-- Every visit is what asking the stage at its position comes to. -/
theorem asked (h : chain.Tour host pass w visits outcome left w') :
    ∀ visit ∈ visits, ∃ stage, chain.stages[visit.view.stageIndex]? = some stage ∧
      visit = host.visit stage.tag visit.view visit.before := by
  induction h with
  | through h => simp
  | last h hvisit _ =>
    intro other hmem
    obtain rfl := List.mem_singleton.1 hmem
    rw [hvisit]
    exact ⟨_, List.getElem?_eq_getElem h, rfl⟩
  | more h hvisit _ _ ih =>
    intro other hmem
    rcases List.mem_cons.1 hmem with rfl | hmem
    · rw [hvisit]
      exact ⟨_, List.getElem?_eq_getElem h, rfl⟩
    · exact ih other hmem

/-- Every visit is of the stage at its position. -/
theorem known (h : chain.Tour host pass w visits outcome left w') (hmem : visit ∈ visits) :
    ∃ stage, chain.stages[visit.view.stageIndex]? = some stage ∧ stage.tag = visit.tag := by
  obtain ⟨stage, hstage, hvisit⟩ := h.asked visit hmem
  exact ⟨stage, hstage, (congrArg StageVisit.tag hvisit).symm⟩

/-- **Nothing happens between visits.** -/
theorem joined (h : chain.Tour host pass w visits outcome left w') :
    visits.IsChain StageVisit.Joins := by
  induction h with
  | through h => exact .nil
  | last h _ _ => exact .singleton _
  | more h hvisit honward rest ih =>
    refine ih.cons fun following hhead ↦ ?_
    obtain ⟨hbefore, hview⟩ := rest.of_head hhead
    exact honward.joins (hvisit ▸ rfl) hbefore hview

/-- A stage that neither goes on nor asks to be run again is the last one. -/
theorem getLast?_of_stops (h : chain.Tour host pass w visits outcome left w')
    (hmem : visit ∈ visits) (hinvoke : visit.answer ≠ .ok (.ok .invoke))
    (hrerun : visit.answer ≠ .ok (.ok .rerun)) : visits.getLast? = some visit := by
  induction h with
  | through h => cases hmem
  | last h hvisit _ =>
    obtain rfl := List.mem_singleton.1 hmem
    rfl
  | more h hvisit honward rest ih =>
    rcases List.mem_cons.1 hmem with rfl | hmem
    · cases honward with
      | next hanswer => exact absurd hanswer hinvoke
      | same hanswer => exact absurd hanswer hrerun
    · rw [List.getLast?_cons, ih hmem]
      rfl

/-- **What the last stage leaves is what the pass ends with.** -/
theorem of_getLast (h : chain.Tour host pass w visits outcome left w')
    (hlast : visits.getLast? = some visit) : chain.LeftAs visit outcome left w' := by
  induction h with
  | through h => cases hlast
  | @last pass w visit outcome h hvisit hjudge =>
    obtain rfl : visit = _ := Option.some.inj hlast
    have hview : visit.view = pass.view chain.name := hvisit ▸ rfl
    have hclosed : chain.ClosedBy visit outcome := by
      have hindex : visit.call.index = pass.inst.cursor := congrArg StageView.stageIndex hview
      rcases closes_of_judge hindex (List.getElem?_eq_getElem h) hjudge with hcloses | hover
      · exact Or.inl ⟨_, hcloses⟩
      · exact Or.inr hover
    by_cases hsuspended : outcome = .ok .suspended
    · subst hsuspended
      refine ⟨hclosed, rfl, rfl, rfl, congrArg StageView.instanceId hview.symm, fun _ ↦ ?_⟩
      rw [StageVisit.onward, hview]
      rfl
    · rw [Pass.leftBy_of_ne hsuspended]
      exact ⟨hclosed, rfl, rfl, rfl, congrArg StageView.instanceId hview.symm,
        fun heq ↦ absurd heq hsuspended⟩
  | @more pass next left w w' visit visits outcome h hvisit honward rest ih =>
    rcases visits.eq_nil_or_concat with rfl | ⟨before, last, rfl⟩
    · -- No other stage was left, so the one that was visited went on.
      obtain rfl : visit = _ := Option.some.inj hlast
      obtain ⟨rfl, rfl, rfl⟩ := rest.of_nil
      have hview : visit.view = pass.view chain.name := hvisit ▸ rfl
      have hended := rest.eq_nil_iff.1 rfl
      cases honward with
      | next hanswer =>
        refine ⟨Or.inl ⟨0, .completed ?_ hanswer⟩, rfl, rfl, rfl,
          congrArg StageView.instanceId hview.symm, nofun⟩
        have hindex : visit.call.index = pass.inst.cursor := congrArg StageView.stageIndex hview
        have hended' : chain.stages.length ≤ pass.inst.cursor + 1 := hended
        omega
      | same hanswer => exact absurd h (Nat.not_lt.2 hended)
    · refine ih ?_
      rw [List.getLast?_cons, List.concat_eq_append] at hlast
      simpa using hlast

end Tour

end Chain

end Conduit
