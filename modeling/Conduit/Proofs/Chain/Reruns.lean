import Conduit.Proofs.Chain.Passes

/-!
# Reruns

A stage that keeps asking to be run again is stopped by a counter. The counter belongs to the instance
and starts anew at every stage, so a pass is bounded: what it has counted and the calls still to come
fit into one call more than the limit for every stage that is left (`Chain.length_callsOf_le`).

Whether the limit was reached can be read off the calls: a stage asked once more than the limit, in a
row (`StageCall.Insists`). A counter that does not start at zero stands for calls that somebody else
made, and the induction along a pass puts that many in front of its own. No holder of a lease gets to
see such a counter (`ChainHost.Obtained`), which is why only the calls of the pass itself matter.

The counter has 32 bits, and is advanced before it is compared. The largest limit that fits into it is
therefore never exceeded: the counter runs over first, and nothing catches that
(`reruns_overflow`).
-/

namespace Conduit

/-! ### Insisting on a rerun -/

/-- Somewhere among the calls, the stage at that position asked so often in a row to be run again. -/
def StageCall.Insists {S : Type} (calls : List (StageCall S)) (index count : Nat) : Prop :=
  ∃ block, block <:+: calls ∧ block.length = count ∧
    ∀ call ∈ block, call.index = index ∧ call.answer = .ok (.ok .rerun)

/-- A block without a given element stands before or behind that element. -/
theorem infix_or_infix_of_not_mem {A : Type} {block before after : List A} {x : A}
    (h : block <:+: before ++ x :: after) (hx : x ∉ block) :
    block <:+: before ∨ block <:+: after := by
  obtain ⟨left, right, heq⟩ := h
  rw [List.append_assoc, List.append_eq_append_iff] at heq
  rcases heq with ⟨gap, rfl, hgap⟩ | ⟨gap, rfl, hgap⟩
  · -- The block begins before the element, so it ends there as well.
    rcases List.append_eq_append_iff.1 hgap with ⟨gap', rfl, -⟩ | ⟨gap', rfl, hgap'⟩
    · exact Or.inl ⟨left, gap', by simp⟩
    · rcases gap' with - | ⟨head, gap'⟩
      · exact Or.inl ⟨left, [], by simp⟩
      · obtain ⟨rfl, -⟩ := List.cons_eq_cons.1 hgap'
        exact absurd (List.mem_append_right _ List.mem_cons_self) hx
  · rcases gap with - | ⟨head, gap⟩
    · rcases block with - | ⟨head, block⟩
      · exact Or.inl (List.nil_infix)
      · obtain ⟨rfl, -⟩ := List.cons_eq_cons.1 hgap
        exact absurd List.mem_cons_self hx
    · obtain ⟨rfl, rfl⟩ := List.cons_eq_cons.1 hgap
      exact Or.inr ⟨gap, right, by simp⟩

namespace StageCall

variable {S : Type} {calls rest : List (StageCall S)} {call : StageCall S} {index count : Nat}

/-- Too few calls do not insist. -/
theorem not_insists_of_length_lt (h : calls.length < count) : ¬Insists calls index count := by
  rintro ⟨block, hinfix, rfl, -⟩
  exact absurd hinfix.length_le (by omega)

/-- A call that was answered otherwise separates what comes before it from what comes after. -/
theorem insists_append_cons_iff (hlength : calls.length < count)
    (hanswer : call.answer ≠ .ok (.ok .rerun)) :
    Insists (calls ++ call :: rest) index count ↔ Insists rest index count := by
  constructor
  · rintro ⟨block, hinfix, hcount, hblock⟩
    rcases infix_or_infix_of_not_mem hinfix fun hmem ↦ hanswer (hblock call hmem).2 with
      hbefore | hafter
    · exact absurd ⟨block, hbefore, hcount, hblock⟩ (not_insists_of_length_lt hlength)
    · exact ⟨block, hafter, hcount, hblock⟩
  · rintro ⟨block, hinfix, hcount, hblock⟩
    exact ⟨block, hinfix.trans (List.suffix_append_of_suffix (List.suffix_cons _ _)).isInfix, hcount,
      hblock⟩

/-- Exactly as many calls as it takes insist on the position that they all have. -/
theorem insists_iff_of_forall {position : Nat} (hcount : calls.length = count) (hpos : 0 < count)
    (h : ∀ call ∈ calls, call.index = position ∧ call.answer = .ok (.ok .rerun)) :
    Insists calls index count ↔ index = position := by
  constructor
  · rintro ⟨block, hinfix, hlength, hblock⟩
    obtain rfl := hinfix.eq_of_length (hlength.trans hcount.symm)
    obtain ⟨call, hmem⟩ := List.exists_mem_of_length_pos (hcount ▸ hpos)
    exact (hblock call hmem).1.symm.trans (h call hmem).1
  · rintro rfl
    exact ⟨calls, List.infix_rfl, hcount, h⟩

end StageCall

namespace Chain

variable {W S : Type} {host : ChainHost W S} {chain : Chain S} {pass : Pass} {w : W}

/-! ### The number of calls -/

/-- A stage is run again only within the limit. -/
theorem le_limit_of_judge_eq_same {index reruns : Nat} {stage : Stage S} {answer : StageAnswer}
    (h : chain.judge index stage reruns answer = .same) :
    reruns + 1 ≤ chain.settings.maxConsecutiveReruns := by
  unfold judge at h
  split at h <;> try contradiction
  split at h
  · contradiction
  · split at h
    · contradiction
    · omega

/-- **A pass is bounded.** What the counter has reached and the calls to come fit into one call more
than the limit for each stage that is left. -/
theorem length_callsOf_le (host : ChainHost W S) (pass : Pass)
    (h : pass.inst.consecutiveReruns ≤ chain.settings.maxConsecutiveReruns) (w : W) :
    (chain.callsOf host pass w).length ≤
      (chain.stages.length - pass.inst.cursor) * (chain.settings.maxConsecutiveReruns + 1) -
        pass.inst.consecutiveReruns := by
  induction pass using chain.pass_induction generalizing w with
  | ended pass hcursor =>
    rw [callsOf_of_le host hcursor]
    exact Nat.zero_le _
  | atStage pass hcursor ihNext ihSame =>
    rcases hasked : host.process chain.stages[pass.inst.cursor].tag (pass.view chain.name) w with
      ⟨⟨answer, view⟩, w'⟩
    rw [callsOf_of_lt hcursor hasked, List.length_cons]
    obtain ⟨left, hleft⟩ : ∃ left, chain.stages.length - pass.inst.cursor = left + 1 :=
      ⟨chain.stages.length - pass.inst.cursor - 1, by omega⟩
    rw [hleft, Nat.succ_mul]
    cases hjudge : chain.judge pass.inst.cursor chain.stages[pass.inst.cursor]
        pass.inst.consecutiveReruns answer with
    | next =>
      have hrest := ihNext view (Nat.zero_le _) w'
      have hcursor' : chain.stages.length - (pass.update view).step.inst.cursor = left := by
        show chain.stages.length - (pass.inst.cursor + 1) = left
        omega
      rw [hcursor'] at hrest
      show (chain.callsOf host (pass.update view).step w').length + 1 ≤ _
      omega
    | same =>
      have hwithin := le_limit_of_judge_eq_same hjudge
      have hrest := ihSame (reruns_lt_of_judge_eq_same hjudge) view hwithin w'
      have hcursor' : chain.stages.length - (pass.update view).again.inst.cursor = left + 1 := hleft
      have hreruns : (pass.update view).again.inst.consecutiveReruns =
          pass.inst.consecutiveReruns + 1 := rfl
      rw [hcursor', hreruns, Nat.succ_mul] at hrest
      show (chain.callsOf host (pass.update view).again w').length + 1 ≤ _
      omega
    | finish outcome =>
      show 0 + 1 ≤ _
      omega

/-! ### What insisting leads to -/

/-- How a pass ends in which the stage at that position asked once more than the limit. The counter is
advanced before it is compared. -/
def exhaustion (chain : Chain S) (index : Nat) (stage : Stage S) : Except Panic PassEnd :=
  if rerunCounterSize ≤ chain.settings.maxConsecutiveReruns + 1 then .error .counterOverflow
  else .ok (.failed ⟨chain.name, index, stage.label,
    StageFailure.rerunFault chain.settings.maxConsecutiveReruns⟩)

theorem judge_rerun_of_limit {index reruns : Nat} {stage : Stage S}
    (h : reruns = chain.settings.maxConsecutiveReruns) :
    chain.judge index stage reruns (.ok (.ok .rerun)) = .finish (chain.exhaustion index stage) := by
  rw [h, judge, exhaustion]
  split
  · rfl
  · rw [if_pos (Nat.lt_succ_self _)]

/-- A pass did not end by reruns: it came to an end, which does not report any. -/
structure Spared (outcome : Except Panic PassEnd) : Prop where
  caught : ∀ panic, outcome ≠ .error panic
  code : ∀ failure, outcome = .ok (.failed failure) →
    failure.fault.code ≠ Fault.Code.chainRerunLimit

/-- An answer that asks for no rerun leads to the next stage, or to an end that reports none. -/
theorem judge_of_ne_rerun {index reruns : Nat} {stage : Stage S} {answer : StageAnswer}
    (h : answer ≠ .ok (.ok .rerun)) :
    chain.judge index stage reruns answer = .next ∨
      ∃ outcome, chain.judge index stage reruns answer = .finish outcome ∧ Spared outcome := by
  rcases answer with panic | fault | directive
  · refine Or.inr ⟨_, rfl, nofun, fun failure heq ↦ ?_⟩
    obtain rfl := PassEnd.failed.inj (Except.ok.inj heq)
    exact (by decide : Fault.Code.chainStagePanicked ≠ Fault.Code.chainRerunLimit)
  · refine Or.inr ⟨_, rfl, nofun, fun failure heq ↦ ?_⟩
    obtain rfl := PassEnd.failed.inj (Except.ok.inj heq)
    exact (by decide : Fault.Code.chainStageFailed ≠ Fault.Code.chainRerunLimit)
  · cases directive with
    | invoke => exact Or.inl rfl
    | rerun => exact absurd rfl h
    | stop => exact Or.inr ⟨_, rfl, nofun, nofun⟩
    | suspend => exact Or.inr ⟨_, rfl, nofun, nofun⟩

/-- What calls say about the end of their pass: it ends by reruns exactly when a stage insisted. -/
inductive Tires (chain : Chain S) (calls : List (StageCall S)) : Except Panic PassEnd → Prop where
  /-- One stage insisted. -/
  | insisted {index : Nat} {stage : Stage S} {outcome : Except Panic PassEnd}
      (hstage : chain.stages[index]? = some stage) (houtcome : outcome = chain.exhaustion index stage)
      (h : ∀ other, StageCall.Insists calls other (chain.settings.maxConsecutiveReruns + 1) ↔
        other = index) : Tires chain calls outcome
  /-- No stage insisted. -/
  | spared {outcome : Except Panic PassEnd} (hspared : Spared outcome)
      (h : ∀ other, ¬StageCall.Insists calls other (chain.settings.maxConsecutiveReruns + 1)) :
      Tires chain calls outcome

/-- Only the insisting matters. -/
theorem Tires.congr {calls calls' : List (StageCall S)} {outcome : Except Panic PassEnd}
    (h : chain.Tires calls outcome)
    (hiff : ∀ index, StageCall.Insists calls' index (chain.settings.maxConsecutiveReruns + 1) ↔
      StageCall.Insists calls index (chain.settings.maxConsecutiveReruns + 1)) :
    chain.Tires calls' outcome := by
  cases h with
  | insisted hstage houtcome h => exact .insisted hstage houtcome fun other ↦ (hiff other).trans (h other)
  | spared hspared h => exact .spared hspared fun other ↦ mt (hiff other).1 (h other)

/-- What unwinds was insisted on. -/
theorem Tires.insists_of_error {calls : List (StageCall S)} {outcome : Except Panic PassEnd}
    {panic : Panic} (h : chain.Tires calls outcome) (herror : outcome = .error panic) :
    ∃ index, index < chain.stages.length ∧
      StageCall.Insists calls index (chain.settings.maxConsecutiveReruns + 1) := by
  cases h with
  | @insisted index stage outcome hstage houtcome h =>
    exact ⟨index, (List.getElem?_eq_some_iff.1 hstage).1, (h index).2 rfl⟩
  | spared hspared h => exact absurd herror (hspared.caught panic)

/-- **A pass ends by reruns exactly when a stage insists.** The counter of the pass stands for
`earlier` calls. -/
theorem tires_callsOf (host : ChainHost W S)
    (hlimit : chain.settings.maxConsecutiveReruns < rerunCounterSize) (pass : Pass)
    (earlier : List (StageCall S)) (hcounted : earlier.length = pass.inst.consecutiveReruns)
    (hearlier : ∀ call ∈ earlier, call.index = pass.inst.cursor ∧
      call.answer = .ok (.ok .rerun))
    (hwithin : pass.inst.consecutiveReruns ≤ chain.settings.maxConsecutiveReruns) (w : W) :
    chain.Tires (earlier ++ chain.callsOf host pass w) (chain.run host pass w).1.1 := by
  induction pass using chain.pass_induction generalizing earlier w with
  | ended pass hcursor =>
    rw [callsOf_of_le host hcursor, run_of_le host hcursor, List.append_nil]
    exact .spared ⟨nofun, nofun⟩ fun other ↦ StageCall.not_insists_of_length_lt (by omega)
  | atStage pass hcursor ihNext ihSame =>
    rcases hasked : host.process chain.stages[pass.inst.cursor].tag (pass.view chain.name) w with
      ⟨⟨answer, view⟩, w'⟩
    rw [callsOf_of_lt hcursor hasked, run_of_lt hcursor hasked]
    by_cases hanswer : answer = .ok (.ok .rerun)
    · -- The call joins those in front of it, and they are at most as many as the limit allows.
      subst hanswer
      have hjoined : ∀ call ∈ earlier ++
          [⟨pass.inst.cursor, chain.stages[pass.inst.cursor].tag, .ok (.ok .rerun)⟩],
          call.index = pass.inst.cursor ∧ call.answer = .ok (.ok .rerun) := by
        intro call hmem
        rcases List.mem_append.1 hmem with hmem | hmem
        · exact hearlier call hmem
        · obtain rfl := List.mem_singleton.1 hmem
          exact ⟨rfl, rfl⟩
      rcases Nat.lt_or_eq_of_le hwithin with hlt | heq
      · rw [judge_rerun_of_lt hlimit hlt]
        have hrest := ihSame (by omega) view (earlier ++
          [⟨pass.inst.cursor, chain.stages[pass.inst.cursor].tag, .ok (.ok .rerun)⟩])
          (by rw [List.length_append, hcounted]; rfl) hjoined hlt w'
        rwa [List.append_assoc] at hrest
      · rw [judge_rerun_of_limit heq]
        exact .insisted (List.getElem?_eq_getElem hcursor) rfl fun other ↦
          StageCall.insists_iff_of_forall (by simp [hcounted, heq]) (Nat.succ_pos _) hjoined
    · -- Any other answer separates the calls in front from those that follow.
      have hsplit : ∀ rest index, StageCall.Insists
          (earlier ++ ⟨pass.inst.cursor, chain.stages[pass.inst.cursor].tag, answer⟩ :: rest) index
          (chain.settings.maxConsecutiveReruns + 1) ↔
          StageCall.Insists rest index (chain.settings.maxConsecutiveReruns + 1) :=
        fun rest index ↦ StageCall.insists_append_cons_iff (by omega) hanswer
      rcases judge_of_ne_rerun hanswer with hjudge | ⟨outcome, hjudge, hspared⟩
      · rw [hjudge]
        exact (ihNext view [] rfl (by simp) (Nat.zero_le _) w').congr (hsplit _)
      · rw [hjudge]
        exact .spared hspared fun other ↦ mt (hsplit [] other).1
          (StageCall.not_insists_of_length_lt (Nat.succ_pos _))

/-- A suspended pass has counted nothing. -/
theorem reruns_of_run_eq_suspended (host : ChainHost W S) (chain : Chain S) (pass : Pass) (w : W)
    (h : (chain.run host pass w).1.1 = .ok .suspended) :
    (chain.run host pass w).1.2.inst.consecutiveReruns = 0 := by
  induction pass using chain.pass_induction generalizing w with
  | ended pass hcursor =>
    rw [run_of_le host hcursor] at h
    cases h
  | atStage pass hcursor ihNext ihSame =>
    rcases hasked : host.process chain.stages[pass.inst.cursor].tag (pass.view chain.name) w with
      ⟨⟨answer, view⟩, w'⟩
    rw [run_of_lt hcursor hasked] at h ⊢
    cases hjudge : chain.judge pass.inst.cursor chain.stages[pass.inst.cursor]
        pass.inst.consecutiveReruns answer with
    | next =>
      rw [hjudge] at h
      exact ihNext view w' h
    | same =>
      rw [hjudge] at h
      exact ihSame (reruns_lt_of_judge_eq_same hjudge) view w' h
    | finish outcome =>
      rw [hjudge] at h
      obtain rfl : outcome = .ok .suspended := h
      rfl

end Chain

/-! ### Leases -/

namespace ChainHost

variable {W S : Type} {host : ChainHost W S} {lease : Lease}

/-- The leases that a holder can come by. -/
inductive Obtained (host : ChainHost W S) : Lease → Prop where
  /-- A lease that was acquired from a pool. -/
  | acquired {chain : Chain S} {ref : PoolRef} {w : W}
      (h : ((host.pool ref).read w).Reached chain) : Obtained host (host.acquire ref w).1
  /-- A lease that came back suspended. -/
  | suspended {lease next : Lease} {event : Event} {connection : AttributeStore} {w : W}
      (h : Obtained host lease)
      (htold : (host.execute lease event connection w).1.1 = .ok (.ok (.suspended next))) :
      Obtained host next
  /-- A lease whose attributes its holder has changed. -/
  | altered {lease : Lease} (h : Obtained host lease) (invocation : AttributeStore) :
      Obtained host (lease.withInvocation invocation)

/-- No reruns are counted when a pass begins. -/
theorem Obtained.consecutiveReruns (h : host.Obtained lease) :
    lease.inst.consecutiveReruns = 0 := by
  induction h with
  | @acquired chain ref w h => exact (h.atStart_acquire (host.registry w)).2
  | @suspended lease next event connection w h htold ih =>
    rcases hrun : ((host.pool lease.pool).read w).chain.run host ⟨event, connection, lease.inst⟩ w with
      ⟨⟨outcome, pass⟩, w'⟩
    rw [execute_told hrun, Lease.told_eq_suspended_iff] at htold
    obtain ⟨rfl, rfl⟩ := htold
    have hreruns := Chain.reruns_of_run_eq_suspended host ((host.pool lease.pool).read w).chain
      ⟨event, connection, lease.inst⟩ w
    rw [hrun] at hreruns
    exact hreruns rfl
  | altered h invocation ih => exact ih

/-- What the limit on reruns means for a pass on a lease that stands at the given position. -/
structure RerunsLimited (chain : Chain S) (cursor : Nat) (calls : List (StageCall S))
    (reply : Except Panic (Except StageFailure ChainOutcome)) : Prop where
  /-- No stage is called more often than the limit allows. -/
  bounded : calls.length ≤
    (chain.stages.length - cursor) * (chain.settings.maxConsecutiveReruns + 1)
  /-- Nothing unwinds. -/
  returns : ∀ panic, reply ≠ .error panic
  /-- The limit is reported for the stage that asked for one rerun more, in a row, in this pass. -/
  reported : ∀ index, (∃ failure, reply = .ok (.error failure) ∧ failure.index = index ∧
      failure.fault.code = Fault.Code.chainRerunLimit) ↔
    StageCall.Insists calls index (chain.settings.maxConsecutiveReruns + 1)

/-- How a pass on a lease ends, by its calls. -/
theorem Obtained.tires (h : host.Obtained lease) (event : Event) (connection : AttributeStore)
    (w : W) (hlimit : ((host.pool lease.pool).read w).chain.settings.maxConsecutiveReruns <
      rerunCounterSize) :
    ((host.pool lease.pool).read w).chain.Tires (host.callsOf lease event connection w)
      (((host.pool lease.pool).read w).chain.run host ⟨event, connection, lease.inst⟩ w).1.1 := by
  rw [callsOf_eq]
  exact Chain.tires_callsOf host hlimit ⟨event, connection, lease.inst⟩ []
    h.consecutiveReruns.symm (by simp) (by rw [h.consecutiveReruns]; exact Nat.zero_le _) w

/-- **Reruns are limited**, if the counter has room for one more than the limit. -/
theorem rerunsLimited_execute (h : host.Obtained lease) (event : Event)
    (connection : AttributeStore) (w : W)
    (hlimit : ((host.pool lease.pool).read w).chain.settings.maxConsecutiveReruns + 1 <
      rerunCounterSize) :
    RerunsLimited ((host.pool lease.pool).read w).chain lease.inst.cursor
      (host.callsOf lease event connection w) (host.execute lease event connection w).1.1 := by
  have htires := h.tires event connection w (Nat.lt_of_succ_lt hlimit)
  rcases hrun : ((host.pool lease.pool).read w).chain.run host ⟨event, connection, lease.inst⟩ w with
    ⟨⟨outcome, pass⟩, w'⟩
  rw [hrun] at htires
  rw [execute_told hrun]
  have hbounded : (host.callsOf lease event connection w).length ≤
      (((host.pool lease.pool).read w).chain.stages.length - lease.inst.cursor) *
        (((host.pool lease.pool).read w).chain.settings.maxConsecutiveReruns + 1) := by
    rw [callsOf_eq]
    exact Nat.le_trans (Chain.length_callsOf_le host ⟨event, connection, lease.inst⟩
      (by rw [h.consecutiveReruns]; exact Nat.zero_le _) w) (Nat.sub_le _ _)
  cases htires with
  | @insisted position stage outcome hstage houtcome hinsists =>
    rw [Chain.exhaustion, if_neg (Nat.not_le.2 hlimit)] at houtcome
    subst houtcome
    refine ⟨hbounded, nofun, fun index ↦ ?_⟩
    rw [hinsists]
    constructor
    · rintro ⟨failure, heq, rfl, -⟩
      obtain rfl := Except.error.inj (Except.ok.inj heq)
      rfl
    · rintro rfl
      exact ⟨_, rfl, rfl, rfl⟩
  | spared hspared hinsists =>
    refine ⟨hbounded, fun panic ↦ ?_, fun index ↦ iff_of_false ?_ (hinsists index)⟩
    · show Lease.told ⟨lease.pool, pass.inst⟩ outcome ≠ Lease.told ⟨lease.pool, pass.inst⟩ (.error panic)
      exact mt Lease.told_inj.1 (hspared.caught panic)
    · rintro ⟨failure, htold, -, hcode⟩
      have hfailed : Lease.told ⟨lease.pool, pass.inst⟩ outcome =
          Lease.told ⟨lease.pool, pass.inst⟩ (.ok (.failed failure)) := htold
      exact hspared.code failure (Lease.told_inj.1 hfailed) hcode

theorem obtained_obedient (chain : Chain Directive) :
    obedient.Obtained (obedient.acquire ⟨0⟩ { chain }).1 :=
  @Obtained.acquired _ _ obedient chain ⟨0⟩ { chain } .new

/-- A stage that always asks to be run again, in a chain that allows one rerun. -/
theorem rerunsLimited_execute_spinning :
    let chain : Chain Directive := ⟨"spin", [⟨"a", .rerun⟩], { maxConsecutiveReruns := 1 }⟩
    let lease := (obedient.acquire ⟨0⟩ { chain }).1
    let pool := (obedient.acquire ⟨0⟩ { chain }).2
    obedient.Obtained lease ∧ pool.chain.settings.maxConsecutiveReruns + 1 < rerunCounterSize ∧
      RerunsLimited pool.chain lease.inst.cursor (obedient.callsOf lease ⟨.read, none⟩ .detached pool)
        (obedient.execute lease ⟨.read, none⟩ .detached pool).1.1 := by
  intro chain lease pool
  have hlease : obedient.Obtained lease := obtained_obedient chain
  have hlimit : pool.chain.settings.maxConsecutiveReruns + 1 < rerunCounterSize := by decide
  exact ⟨hlease, hlimit, rerunsLimited_execute hlease ⟨.read, none⟩ .detached pool hlimit⟩

/-- Stages that do nothing but ask to be run again use up the reruns. -/
theorem run_obedient_rerun {chain : Chain Directive}
    (hlimit : chain.settings.maxConsecutiveReruns < rerunCounterSize)
    (hstages : ∀ stage ∈ chain.stages, stage.tag = .rerun) (pass : Pass)
    (hcursor : pass.inst.cursor < chain.stages.length)
    (hwithin : pass.inst.consecutiveReruns ≤ chain.settings.maxConsecutiveReruns)
    (pool : ChainPool Directive) :
    (chain.run obedient pass pool).1.1 =
      chain.exhaustion pass.inst.cursor chain.stages[pass.inst.cursor] := by
  induction pass using chain.pass_induction with
  | ended pass hended => exact absurd hcursor (Nat.not_lt.2 hended)
  | atStage pass _ ihNext ihSame =>
    have hasked : obedient.process chain.stages[pass.inst.cursor].tag (pass.view chain.name) pool =
        ((.ok (.ok .rerun), pass.view chain.name), pool) := by
      rw [hstages _ (List.getElem_mem hcursor)]
      rfl
    rw [Chain.run_of_lt hcursor hasked]
    rcases Nat.lt_or_eq_of_le hwithin with hlt | heq
    · rw [Chain.judge_rerun_of_lt hlimit hlt]
      exact ihSame (by omega) (pass.view chain.name) hcursor hlt
    · rw [Chain.judge_rerun_of_limit heq]

/-- **The largest limit is never exceeded.** A stage that asks for one rerun more than it makes the
counter run over, and that is not reported. -/
theorem reruns_overflow :
    let chain : Chain Directive :=
      ⟨"spin", [⟨"a", .rerun⟩], { maxConsecutiveReruns := UInt32.size - 1 }⟩
    let lease := (obedient.acquire ⟨0⟩ { chain }).1
    let pool := (obedient.acquire ⟨0⟩ { chain }).2
    chain.settings.validate = .ok () ∧ obedient.Obtained lease ∧
      StageCall.Insists (obedient.callsOf lease ⟨.read, none⟩ .detached pool) 0
        (chain.settings.maxConsecutiveReruns + 1) ∧
      (obedient.execute lease ⟨.read, none⟩ .detached pool).1.1 = .error .counterOverflow := by
  intro chain lease pool
  have hlease : obedient.Obtained lease := obtained_obedient chain
  have hexhausted : (chain.run obedient ⟨⟨.read, none⟩, .detached, lease.inst⟩ pool).1.1 =
      .error .counterOverflow :=
    run_obedient_rerun (by decide) (by simp [chain]) _ (by decide) (by decide) pool
  have htires := hlease.tires ⟨.read, none⟩ .detached pool (by decide)
  obtain ⟨index, hindex, hinsists⟩ := htires.insists_of_error hexhausted
  obtain rfl : index = 0 := Nat.lt_one_iff.1 hindex
  rcases hrun : ((obedient.pool lease.pool).read pool).chain.run obedient
    ⟨⟨.read, none⟩, .detached, lease.inst⟩ pool with ⟨⟨outcome, pass⟩, pool'⟩
  obtain rfl : outcome = .error .counterOverflow :=
    (congrArg (fun told ↦ told.1.1) hrun).symm.trans hexhausted
  exact ⟨rfl, hlease, hinsists, execute_told hrun⟩

end ChainHost

end Conduit
