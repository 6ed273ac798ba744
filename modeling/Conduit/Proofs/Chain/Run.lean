import Conduit.Chain.Run

/-!
# Passes through a chain, step by step

A pass is a recursion on the stages left and, at one stage, on the reruns left. The equations of one
step (`run_of_le`, `run_of_lt`) and the induction along a pass (`pass_induction`) stand here, so that
what is proved of passes does not open the recursion again.
-/

namespace Conduit

/-- The pass as an ending leaves it: a suspended pass goes on with the next stage. -/
def Pass.leftBy (pass : Pass) : Except Panic PassEnd → Pass
  | .ok .suspended => pass.step
  | _ => pass

theorem Pass.leftBy_of_ne {pass : Pass} {outcome : Except Panic PassEnd}
    (h : outcome ≠ .ok .suspended) : pass.leftBy outcome = pass := by
  unfold leftBy
  split
  · exact absurd rfl h
  · rfl

namespace Chain

variable {W S : Type}

/-- A pass that stands behind the last stage is complete. -/
theorem run_of_le (host : ChainHost W S) {chain : Chain S} {pass : Pass}
    (h : chain.stages.length ≤ pass.inst.cursor) (w : W) :
    chain.run host pass w = ((.ok .completed, pass), w) := by
  rw [run, dif_neg (Nat.not_lt.2 h)]
  rfl

/-- A pass that stands at a stage asks it, and goes on as the answer is judged. -/
theorem run_of_lt {host : ChainHost W S} {chain : Chain S} {pass : Pass} {w w' : W}
    {answer : StageAnswer} {view : StageView} (h : pass.inst.cursor < chain.stages.length)
    (hasked : host.process chain.stages[pass.inst.cursor].tag (pass.view chain.name) w =
      ((answer, view), w')) :
    chain.run host pass w =
      match chain.judge pass.inst.cursor chain.stages[pass.inst.cursor]
        pass.inst.consecutiveReruns answer with
      | .next => chain.run host (pass.update view).step w'
      | .same => chain.run host (pass.update view).again w'
      | .finish outcome => ((outcome, (pass.update view).leftBy outcome), w') := by
  rw [run, dif_pos h]
  simp only [bind, StateT.bind, hasked]
  split
  · next hjudge => rw [hjudge]
  · next hjudge => rw [hjudge]
  · next outcome hjudge =>
    rw [hjudge]
    rcases outcome with panic | ending
    · rfl
    · cases ending <;> rfl

/-- **Induction along a pass.** What holds of the passes that have run through all stages, and of a
pass at a stage when it holds of that pass at the next stage and, while the rerun counter has not
reached its last value, at the same stage once more, holds of all passes. -/
theorem pass_induction (chain : Chain S) {motive : Pass → Prop}
    (ended : ∀ pass, chain.stages.length ≤ pass.inst.cursor → motive pass)
    (atStage : ∀ pass, pass.inst.cursor < chain.stages.length →
      (∀ view, motive (pass.update view).step) →
      (pass.inst.consecutiveReruns + 1 < rerunCounterSize →
        ∀ view, motive (pass.update view).again) → motive pass)
    (pass : Pass) : motive pass := by
  -- Going on leaves one stage less, and a rerun leaves the stages and one rerun less.
  have hstages : ∀ left, ∀ pass : Pass, chain.stages.length - pass.inst.cursor = left →
      motive pass := by
    intro left
    induction left with
    | zero => exact fun pass hleft ↦ ended pass (by omega)
    | succ left ihStage =>
      have hreruns : ∀ reruns, ∀ pass : Pass,
          chain.stages.length - pass.inst.cursor = left + 1 →
          rerunCounterSize - pass.inst.consecutiveReruns = reruns → motive pass := by
        intro reruns
        induction reruns with
        | zero =>
          intro pass hleft hreruns
          refine atStage pass (by omega) (fun view ↦ ihStage _ ?_) fun hlt ↦ by omega
          show chain.stages.length - (pass.inst.cursor + 1) = left
          omega
        | succ reruns ihRerun =>
          intro pass hleft hreruns
          refine atStage pass (by omega) (fun view ↦ ihStage _ ?_) fun hlt view ↦
            ihRerun _ hleft ?_
          · show chain.stages.length - (pass.inst.cursor + 1) = left
            omega
          · show rerunCounterSize - (pass.inst.consecutiveReruns + 1) = reruns
            omega
      exact fun pass hleft ↦ hreruns _ pass hleft rfl
  exact hstages _ pass rfl

/-- **What a pass preserves.** A property of the pass and the state that every stage keeps, and that
does not depend on the position and the rerun counter, holds when the pass ends. -/
theorem run_preserves {host : ChainHost W S} {chain : Chain S} (Kept : Pass → W → Prop)
    (asked : ∀ pass w (stage : Stage S), Kept pass w →
      Kept (pass.update (host.process stage.tag (pass.view chain.name) w).1.2)
        (host.process stage.tag (pass.view chain.name) w).2)
    (stepped : ∀ pass w, Kept pass w → Kept pass.step w)
    (rerun : ∀ pass w, Kept pass w → Kept pass.again w)
    {pass : Pass} {w : W} (h : Kept pass w) :
    Kept (chain.run host pass w).1.2 (chain.run host pass w).2 := by
  induction pass using chain.pass_induction generalizing w with
  | ended pass hcursor =>
    rw [run_of_le host hcursor]
    exact h
  | atStage pass hcursor ihNext ihSame =>
    have hkept := asked pass w chain.stages[pass.inst.cursor] h
    rcases hasked : host.process chain.stages[pass.inst.cursor].tag (pass.view chain.name) w with
      ⟨⟨answer, view⟩, w'⟩
    rw [hasked] at hkept
    rw [run_of_lt hcursor hasked]
    cases hjudge : chain.judge pass.inst.cursor chain.stages[pass.inst.cursor]
        pass.inst.consecutiveReruns answer with
    | next => exact ihNext view (stepped _ _ hkept)
    | same => exact ihSame (reruns_lt_of_judge_eq_same hjudge) view (rerun _ _ hkept)
    | finish outcome =>
      show Kept ((pass.update view).leftBy outcome) w'
      unfold Pass.leftBy
      split
      · exact stepped _ _ hkept
      · exact hkept

/-! ### Judging a rerun -/

section Rerun

variable {chain : Chain S} {index : Nat} {stage : Stage S} {reruns : Nat}

/-- Within the limit a stage is run again. -/
theorem judge_rerun_of_lt (hlimit : chain.settings.maxConsecutiveReruns < rerunCounterSize)
    (h : reruns < chain.settings.maxConsecutiveReruns) :
    chain.judge index stage reruns (.ok (.ok .rerun)) = .same := by
  rw [judge, if_neg (by omega), if_neg (by omega)]

/-- One rerun more than the limit is a failure; the counter does not reach its end before. -/
theorem judge_rerun_of_eq (hlimit : chain.settings.maxConsecutiveReruns + 1 < rerunCounterSize)
    (h : reruns = chain.settings.maxConsecutiveReruns) :
    chain.judge index stage reruns (.ok (.ok .rerun)) =
      .finish (.ok (.failed ⟨chain.name, index, stage.label,
        StageFailure.rerunFault chain.settings.maxConsecutiveReruns⟩)) := by
  rw [judge, if_neg (by omega), if_pos (by omega)]

end Rerun

end Chain

/-! ### Executing a lease -/

/-- What the holder of a lease is told when a pass on it ends; a suspended lease is given back. -/
def Lease.told (lease : Lease) :
    Except Panic PassEnd → Except Panic (Except StageFailure ChainOutcome)
  | .ok .completed => .ok (.ok .completed)
  | .ok (.stopped stage) => .ok (.ok (.stopped stage))
  | .ok .suspended => .ok (.ok (.suspended lease))
  | .ok (.failed failure) => .ok (.error failure)
  | .error panic => .error panic

namespace Lease

variable {lease next : Lease} {outcome : Except Panic PassEnd}

/-- Endings are told apart. -/
theorem told_inj {other : Except Panic PassEnd} :
    lease.told outcome = lease.told other ↔ outcome = other := by
  refine ⟨fun heq ↦ ?_, fun heq ↦ by rw [heq]⟩
  rcases outcome with panic | ending <;> rcases other with panic' | ending'
  · simpa [told] using heq
  · cases ending' <;> simp [told] at heq
  · cases ending <;> simp [told] at heq
  · cases ending <;> cases ending' <;> simp_all [told]

theorem told_eq_suspended_iff :
    lease.told outcome = .ok (.ok (.suspended next)) ↔ outcome = .ok .suspended ∧ lease = next := by
  rcases outcome with panic | ending
  · simp [told]
  · cases ending <;> simp [told]

end Lease

namespace ChainHost

variable {W S : Type} {host : ChainHost W S} {lease : Lease} {event : Event}
  {connection : AttributeStore} {w w' : W} {pass : Pass}

/-- A pass that is suspended leaves the instance with its holder. -/
theorem execute_of_suspended
    (h : ((host.pool lease.pool).read w).chain.run host ⟨event, connection, lease.inst⟩ w =
      ((.ok .suspended, pass), w')) :
    host.execute lease event connection w =
      ((.ok (.ok (.suspended ⟨lease.pool, pass.inst⟩)), pass.connection), w') := by
  simp only [execute, bind, StateT.bind, Cell.get, h]
  rfl

/-- A pass that ends otherwise returns the instance before its holder is told. -/
theorem execute_of_ended {outcome : Except Panic PassEnd} (hne : outcome ≠ .ok .suspended)
    (h : ((host.pool lease.pool).read w).chain.run host ⟨event, connection, lease.inst⟩ w =
      ((outcome, pass), w')) :
    host.execute lease event connection w =
      ((lease.told outcome, pass.connection), (host.release ⟨lease.pool, pass.inst⟩ w').2) := by
  simp only [execute, bind, StateT.bind, Cell.get, h]
  rcases outcome with panic | ending
  · rfl
  · cases ending with
    | suspended => exact absurd rfl hne
    | _ => rfl

/-- What the holder is told depends on how the pass ended, and on nothing else. -/
theorem execute_told {outcome : Except Panic PassEnd}
    (h : ((host.pool lease.pool).read w).chain.run host ⟨event, connection, lease.inst⟩ w =
      ((outcome, pass), w')) :
    (host.execute lease event connection w).1.1 = Lease.told ⟨lease.pool, pass.inst⟩ outcome := by
  by_cases hsuspended : outcome = .ok .suspended
  · subst hsuspended
    rw [execute_of_suspended h]
    rfl
  · rw [execute_of_ended hsuspended h]
    rcases outcome with panic | ending
    · rfl
    · cases ending with
      | suspended => exact absurd rfl hsuspended
      | _ => rfl

end ChainHost

end Conduit
