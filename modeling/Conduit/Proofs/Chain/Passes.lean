import Conduit.Proofs.Chain.Order
import Conduit.Proofs.Chain.Pool

/-!
# Passes on one lease

Whoever holds a lease may run a pass on it, and another one whenever the last one was suspended. In
between anything may happen to the rest of the state, and to the attributes that belong to the lease.
`ChainHost.passes` runs such a sequence of passes and keeps a record of each: its calls and what its
holder is told.

`orderly_passes` says what the records of a lease that was just acquired amount to: the calls of all
passes together are in the order of the chain, and the last call of a pass decides how it ends. The
only thing needed of the pool is that its instances stand at the first stage, which holds of every
pool that came to be by handing out and taking back instances (`ChainPool.Reached`).
-/

namespace Conduit

/-! ### Records of passes -/

/-- What the holder of a lease gives to a pass. -/
structure PassInput where
  /-- The event. -/
  event : Event
  /-- The attributes of the connection. -/
  connection : AttributeStore
  /-- What the attributes of the invocation are to be. -/
  invocation : AttributeStore

/-- What can be told of a pass from outside. -/
structure PassRecord (S : Type) where
  /-- The calls of stages. -/
  calls : List (StageCall S)
  /-- What the holder of the lease is told. -/
  ending : Except Panic (Except StageFailure ChainOutcome)

/-- The last call was one of the stage at that position, and was answered so. -/
def StageCall.EndWith {S : Type} (calls : List (StageCall S)) (index : Nat)
    (answer : StageAnswer) : Prop :=
  ∃ call, calls.getLast? = some call ∧ call.index = index ∧ call.answer = answer

theorem StageCall.endWith_concat {S : Type} {calls : List (StageCall S)} {call : StageCall S}
    {index : Nat} {answer : StageAnswer} :
    EndWith (calls ++ [call]) index answer ↔ call.index = index ∧ call.answer = answer := by
  simp [EndWith]

/-- A lease whose attributes were changed by its holder. -/
def Lease.withInvocation (lease : Lease) (invocation : AttributeStore) : Lease :=
  { lease with inst := { lease.inst with invocation } }

namespace ChainHost

variable {W S : Type}

/-- Runs passes on a lease for as long as they are suspended. Before each pass, its holder may do
anything to the state. -/
def passes (host : ChainHost W S) :
    Lease → List (Lease → StateM W PassInput) → StateM W (List (PassRecord S))
  | _, [] => pure []
  | lease, prepare :: rest => do
    let input ← prepare lease
    let lease := lease.withInvocation input.invocation
    let calls := host.callsOf lease input.event input.connection (← get)
    let (ending, _) ← host.execute lease input.event input.connection
    match ending with
    | .ok (.ok (.suspended lease)) => return ⟨calls, ending⟩ :: (← host.passes lease rest)
    | _ => return [⟨calls, ending⟩]

/-- An action leaves a pool with its chain, which is given when the pool is made and is never
replaced. -/
def Keeps {A : Type} (host : ChainHost W S) (ref : PoolRef) (action : StateM W A) : Prop :=
  ∀ w, ((host.pool ref).read (action w).2).chain = ((host.pool ref).read w).chain

end ChainHost

namespace Chain

variable {S : Type}

/-- What the record of a pass amounts to, after the calls of the passes before it on that lease. -/
structure Accounts (chain : Chain S) (past : List (StageCall S)) (record : PassRecord S) : Prop where
  /-- The pass is suspended exactly when a stage suspended it, and goes on with the next stage. -/
  suspended : ∀ cursor, (∃ lease, record.ending = .ok (.ok (.suspended lease)) ∧
      lease.inst.cursor = cursor) ↔
    ∃ index, cursor = index + 1 ∧ StageCall.EndWith record.calls index (.ok (.ok .suspend))
  /-- The pass is stopped exactly when a stage stopped it. -/
  stopped : ∀ index, record.ending = .ok (.ok (.stopped index)) ↔
    StageCall.EndWith record.calls index (.ok (.ok .stop))
  /-- The pass fails exactly when a stage failed, panicked or asked too often to be run again. -/
  failed : ∀ failure, record.ending = .ok (.error failure) ↔
    failure.chain = chain.name ∧
    (∃ stage, chain.stages[failure.index]? = some stage ∧ failure.label = stage.label) ∧
    ∃ answer, StageCall.EndWith record.calls failure.index answer ∧
      FailsWith chain.settings.maxConsecutiveReruns
        (StageCall.rerunsInARow (past ++ record.calls)) answer failure.fault
  /-- The pass is complete exactly when the last stage went on, now or by suspending the pass
  before. -/
  completed : record.ending = .ok (.ok .completed) ↔
    StageCall.EndWith record.calls (chain.stages.length - 1) (.ok (.ok .invoke)) ∨
    StageCall.EndWith past (chain.stages.length - 1) (.ok (.ok .suspend))
  /-- No panic gets out of a pass. -/
  caught : ∀ panic, record.ending ≠ .error panic

/-- What the records of the passes on one lease amount to, after the calls of earlier passes. -/
structure Orderly (chain : Chain S) (past : List (StageCall S)) (records : List (PassRecord S)) :
    Prop where
  /-- The calls of all passes together are in order. -/
  inOrder : chain.InOrder (past ++ records.flatMap (·.calls))
  /-- Each pass ends as its last call says. -/
  accounts : ∀ earlier record later, records = earlier ++ record :: later →
    chain.Accounts (past ++ earlier.flatMap (·.calls)) record
  /-- A pass that is followed by another one was suspended. -/
  resumed : ∀ earlier record later, records = earlier ++ record :: later → later ≠ [] →
    ∃ lease, record.ending = .ok (.ok (.suspended lease))

/-! ### One record -/

section Record

variable {chain : Chain S} {past calls : List (StageCall S)} {call : StageCall S}

/-- The record of a pass that its last call ended. -/
theorem Closes.accounts {outcome : Except Panic PassEnd} {lease : Lease}
    (h : chain.Closes (StageCall.rerunsInARow (past ++ (calls ++ [call]))) call outcome)
    (hcursor : outcome = .ok .suspended → lease.inst.cursor = call.index + 1)
    (hpast : ¬StageCall.EndWith past (chain.stages.length - 1) (.ok (.ok .suspend))) :
    chain.Accounts past ⟨calls ++ [call], lease.told outcome⟩ where
  suspended cursor := by
    simp only [Lease.told_eq_suspended_iff, StageCall.endWith_concat]
    constructor
    · rintro ⟨_, ⟨hsuspended, rfl⟩, rfl⟩
      exact ⟨call.index, hcursor hsuspended, rfl, h.suspended_iff.1 hsuspended⟩
    · rintro ⟨_, rfl, rfl, hanswer⟩
      have hsuspended := h.suspended_iff.2 hanswer
      exact ⟨lease, ⟨hsuspended, rfl⟩, hcursor hsuspended⟩
  stopped index := by
    show lease.told outcome = lease.told (.ok (.stopped index)) ↔ _
    rw [Lease.told_inj, h.stopped_iff, StageCall.endWith_concat]
  failed failure := by
    show lease.told outcome = lease.told (.ok (.failed failure)) ↔ _
    simp only [Lease.told_inj, h.failed_iff, StageCall.endWith_concat]
    constructor
    · rintro ⟨hname, hstage, hindex, hfails⟩
      exact ⟨hname, hstage, call.answer, ⟨hindex, rfl⟩, hfails⟩
    · rintro ⟨hname, hstage, _, ⟨hindex, rfl⟩, hfails⟩
      exact ⟨hname, hstage, hindex, hfails⟩
  completed := by
    show lease.told outcome = lease.told (.ok .completed) ↔ _
    simp only [Lease.told_inj, h.completed_iff, StageCall.endWith_concat, hpast, or_false]
    constructor
    · intro hanswer
      have hlast := h.index_of_invoke hanswer
      exact ⟨by omega, hanswer⟩
    · rintro ⟨-, hanswer⟩
      exact hanswer
  caught panic := by
    show lease.told outcome ≠ lease.told (.error panic)
    exact mt Lease.told_inj.1 (h.ne_error panic)

/-- The record of a pass that found all stages done. -/
theorem accounts_of_done
    (hpast : StageCall.EndWith past (chain.stages.length - 1) (.ok (.ok .suspend))) :
    chain.Accounts past ⟨[], .ok (.ok .completed)⟩ where
  suspended := by simp [StageCall.EndWith]
  stopped := by simp [StageCall.EndWith]
  failed := by simp [StageCall.EndWith]
  completed := iff_of_true rfl (Or.inr hpast)
  caught := nofun

end Record

/-! ### One pass after the other -/

variable {chain : Chain S} {past : List (StageCall S)} {inst : ChainInstance}

/-- The calls of the passes so far lead to the stage at which an instance stands, and the last of them
suspended its pass. -/
structure Stands (chain : Chain S) (past : List (StageCall S)) (inst : ChainInstance) : Prop where
  awaits : chain.Awaits past inst.cursor inst.consecutiveReruns
  suspended : ∀ before call, past = before ++ [call] → call.answer = .ok (.ok .suspend)

theorem stands_nil (h : inst.AtStart) : chain.Stands [] inst where
  awaits := by
    rw [h.1, h.2]
    exact awaits_nil
  suspended := by simp

/-- An instance stands behind all stages exactly when the last stage suspended the pass before. -/
theorem Stands.length_le_cursor_iff (h : chain.Stands past inst) (hstages : chain.stages ≠ []) :
    chain.stages.length ≤ inst.cursor ↔
      StageCall.EndWith past (chain.stages.length - 1) (.ok (.ok .suspend)) := by
  have hpos : 0 < chain.stages.length := List.length_pos_iff.2 hstages
  -- Whatever is called next would be a call at the cursor, so it is one behind the last call.
  have hcursor : ∀ before call, past = before ++ [call] → inst.cursor = call.index + 1 := by
    intro before call hpast
    have hprecedes := h.awaits.steps before call { call with index := inst.cursor } hpast rfl
    exact hprecedes.onward.2 (Or.inr (h.suspended before call hpast))
  rcases past.eq_nil_or_concat with rfl | ⟨before, call, hpast⟩
  · have hfirst := h.awaits.first rfl
    refine iff_of_false (by omega) ?_
    rintro ⟨call, hlast, -⟩
    simp at hlast
  · rw [List.concat_eq_append] at hpast
    subst hpast
    obtain ⟨stage, hstage, -⟩ := h.awaits.inOrder.known call (by simp)
    have hlt := (List.getElem?_eq_some_iff.1 hstage).1
    rw [StageCall.endWith_concat, hcursor before call rfl]
    constructor
    · exact fun hle ↦ ⟨by omega, h.suspended before call rfl⟩
    · rintro ⟨hindex, -⟩
      omega

theorem orderly_nil (h : chain.InOrder past) : chain.Orderly past [] where
  inOrder := by simpa using h
  accounts := by simp
  resumed := by simp

/-- A pass before the others. -/
theorem Orderly.cons {record : PassRecord S} {records : List (PassRecord S)}
    (haccounts : chain.Accounts past record)
    (hresumed : records ≠ [] → ∃ lease, record.ending = .ok (.ok (.suspended lease)))
    (h : chain.Orderly (past ++ record.calls) records) :
    chain.Orderly past (record :: records) where
  inOrder := by simpa using h.inOrder
  accounts earlier other later heq := by
    rcases earlier with - | ⟨first, earlier⟩
    · obtain ⟨rfl, -⟩ := List.cons_eq_cons.1 heq
      simpa using haccounts
    · obtain ⟨rfl, hrest⟩ := List.cons_eq_cons.1 heq
      simpa using h.accounts earlier other later hrest
  resumed earlier other later heq hlater := by
    rcases earlier with - | ⟨first, earlier⟩
    · obtain ⟨rfl, rfl⟩ := List.cons_eq_cons.1 heq
      exact hresumed hlater
    · obtain ⟨-, hrest⟩ := List.cons_eq_cons.1 heq
      exact h.resumed earlier other later hrest hlater

end Chain

namespace ChainHost

variable {W S : Type} {host : ChainHost W S} {chain : Chain S} {past : List (StageCall S)}
  {lease : Lease} {w : W}

/-- What one pass on a lease amounts to, and where it leaves the lease if it is suspended. -/
theorem accounts_execute (hstages : chain.stages ≠ [])
    (hlimit : chain.settings.maxConsecutiveReruns + 1 < rerunCounterSize)
    (hchain : ((host.pool lease.pool).read w).chain = chain) (h : chain.Stands past lease.inst)
    (event : Event) (connection : AttributeStore) :
    chain.Accounts past
      ⟨host.callsOf lease event connection w, (host.execute lease event connection w).1.1⟩ ∧
    chain.InOrder (past ++ host.callsOf lease event connection w) ∧
    ∀ next, (host.execute lease event connection w).1.1 = .ok (.ok (.suspended next)) →
      next.pool = lease.pool ∧
      chain.Stands (past ++ host.callsOf lease event connection w) next.inst := by
  have hawaits : chain.Awaits past (Pass.mk event connection lease.inst).inst.cursor
      (Pass.mk event connection lease.inst).inst.consecutiveReruns := h.awaits
  have hpassed := hawaits.passed_callsOf host hlimit w
  rcases hrun : chain.run host ⟨event, connection, lease.inst⟩ w with ⟨⟨outcome, pass⟩, w'⟩
  rw [hrun] at hpassed
  rw [execute_told (by rw [hchain]; exact hrun), callsOf_eq, hchain]
  by_cases hdone : chain.stages.length ≤ lease.inst.cursor
  · -- No stage is left, since the last one suspended the pass before.
    rw [Chain.run_of_le host hdone] at hrun
    obtain ⟨⟨rfl, rfl⟩, rfl⟩ := hrun
    rw [Chain.callsOf_of_le host hdone, List.append_nil]
    exact ⟨Chain.accounts_of_done ((h.length_le_cursor_iff hstages).1 hdone), h.awaits.inOrder,
      nofun⟩
  · have hpast := mt (h.length_le_cursor_iff hstages).2 hdone
    have hne : chain.callsOf host ⟨event, connection, lease.inst⟩ w ≠ [] :=
      chain.callsOf_ne_nil host (Nat.lt_of_not_le hdone) w
    -- The calls are an index of `hpassed`, so they have to be a variable for the case split.
    generalize chain.callsOf host ⟨event, connection, lease.inst⟩ w = calls at hpassed hne ⊢
    cases hpassed with
    | through => exact absurd rfl hne
    | @closed calls call outcome inst hinOrder hcloses hresumed =>
      refine ⟨hcloses.accounts (fun hsuspended ↦ (hresumed hsuspended).1) hpast, hinOrder,
        fun next hnext ↦ ?_⟩
      obtain ⟨rfl, rfl⟩ := Lease.told_eq_suspended_iff.1 hnext
      refine ⟨rfl, (hresumed rfl).2, fun before last heq ↦ ?_⟩
      rw [← List.append_assoc] at heq
      obtain ⟨-, hlast⟩ := List.append_inj' heq rfl
      obtain rfl := List.singleton_inj.1 hlast
      cases hcloses with
      | suspended hanswer => exact hanswer

/-- What stages keep, an execution keeps. -/
theorem keeps_execute {ref : PoolRef} (hlawful : (host.pool ref).Lawful)
    (hprocess : ∀ tag view, host.Keeps ref (host.process tag view)) (hpool : lease.pool = ref)
    (event : Event) (connection : AttributeStore) :
    host.Keeps ref (host.execute lease event connection) := by
  intro w
  subst hpool
  have hkept : ((host.pool lease.pool).read (((host.pool lease.pool).read w).chain.run host
      ⟨event, connection, lease.inst⟩ w).2).chain = ((host.pool lease.pool).read w).chain :=
    Chain.run_preserves
      (fun _ after ↦
        ((host.pool lease.pool).read after).chain = ((host.pool lease.pool).read w).chain)
      (fun pass after stage h ↦ (hprocess stage.tag _ after).trans h) (fun _ _ h ↦ h)
      (fun _ _ h ↦ h) rfl
  rcases hrun : ((host.pool lease.pool).read w).chain.run host ⟨event, connection, lease.inst⟩ w with
    ⟨⟨outcome, pass⟩, w'⟩
  rw [hrun] at hkept
  by_cases hsuspended : outcome = .ok .suspended
  · subst hsuspended
    rw [execute_of_suspended hrun]
    exact hkept
  · rw [execute_of_ended hsuspended hrun]
    show ((host.pool lease.pool).read ((host.pool lease.pool).write _ w')).chain = _
    rw [hlawful.read_write]
    exact hkept

/-- Passes one after another, by the first one. Only a suspended one is followed by others. -/
theorem passes_cons {prepare : Lease → StateM W PassInput}
    {rest : List (Lease → StateM W PassInput)} {input : PassInput} {w₁ w₂ : W}
    {ending : Except Panic (Except StageFailure ChainOutcome)} {left : AttributeStore}
    (hprepare : prepare lease w = (input, w₁))
    (hexecute : host.execute (lease.withInvocation input.invocation) input.event input.connection w₁ =
      ((ending, left), w₂)) :
    (host.passes lease (prepare :: rest) w).1 =
      ⟨host.callsOf (lease.withInvocation input.invocation) input.event input.connection w₁,
        ending⟩ ::
        match ending with
        | .ok (.ok (.suspended next)) => (host.passes next rest w₂).1
        | _ => [] := by
  simp only [passes, bind, StateT.bind, get, getThe, MonadStateOf.get, StateT.get, pure, hprepare,
    hexecute]
  split
  · rfl
  · rfl

/-- Passes on a lease that stands where the passes before it left it. -/
theorem orderly_passes_of_stands {ref : PoolRef} (hstages : chain.stages ≠ [])
    (hlimit : chain.settings.maxConsecutiveReruns + 1 < rerunCounterSize)
    (hlawful : (host.pool ref).Lawful)
    (hprocess : ∀ tag view, host.Keeps ref (host.process tag view))
    (preparations : List (Lease → StateM W PassInput))
    (hprepared : ∀ prepare ∈ preparations, ∀ lease, host.Keeps ref (prepare lease))
    (hpool : lease.pool = ref) (hchain : ((host.pool ref).read w).chain = chain)
    (h : chain.Stands past lease.inst) :
    chain.Orderly past (host.passes lease preparations w).1 := by
  induction preparations generalizing lease past w with
  | nil => exact Chain.orderly_nil h.awaits.inOrder
  | cons prepare rest ih =>
    rcases hprepare : prepare lease w with ⟨input, w₁⟩
    rcases hexecute : host.execute (lease.withInvocation input.invocation) input.event
      input.connection w₁ with ⟨⟨ending, left⟩, w₂⟩
    have hchain₁ : ((host.pool ref).read w₁).chain = chain := by
      have hkept := hprepared prepare List.mem_cons_self lease w
      rw [hprepare] at hkept
      exact hkept.trans hchain
    have hpool₁ : (lease.withInvocation input.invocation).pool = ref := hpool
    have hchain₂ : ((host.pool ref).read w₂).chain = chain := by
      have hkept := keeps_execute hlawful hprocess hpool₁ input.event input.connection w₁
      rw [hexecute] at hkept
      exact hkept.trans hchain₁
    have hstands : chain.Stands past (lease.withInvocation input.invocation).inst :=
      ⟨h.awaits, h.suspended⟩
    obtain ⟨haccounts, hinOrder, hnext⟩ := accounts_execute hstages hlimit
      (by rw [hpool₁]; exact hchain₁) hstands input.event input.connection
    rw [hexecute] at haccounts hnext
    rw [passes_cons hprepare hexecute]
    split
    · next next =>
      obtain ⟨hnextPool, hstands⟩ := hnext next rfl
      exact .cons haccounts (fun _ ↦ ⟨next, rfl⟩) (ih
        (fun prepare hmem ↦ hprepared prepare (List.mem_cons_of_mem _ hmem))
        (hnextPool.trans hpool) hchain₂ hstands)
    · exact .cons haccounts (fun hne ↦ absurd rfl hne) (Chain.orderly_nil hinOrder)

/-- **Every sequence of passes is orderly.** -/
theorem orderly_passes {ref : PoolRef} (hstages : chain.stages ≠ [])
    (hlimit : chain.settings.maxConsecutiveReruns + 1 < rerunCounterSize)
    (hlawful : (host.pool ref).Lawful)
    (hprocess : ∀ tag view, host.Keeps ref (host.process tag view))
    (preparations : List (Lease → StateM W PassInput))
    (hprepared : ∀ prepare ∈ preparations, ∀ lease, host.Keeps ref (prepare lease))
    (hreached : ((host.pool ref).read w).Reached chain) :
    chain.Orderly []
      (host.passes (host.acquire ref w).1 preparations (host.acquire ref w).2).1 := by
  have hacquired : (((host.pool ref).read (host.acquire ref w).2)).chain = chain := by
    show ((host.pool ref).read ((host.pool ref).write _ w)).chain = chain
    rw [hlawful.read_write]
    exact (hreached.acquire (host.registry w)).chain_eq
  exact orderly_passes_of_stands hstages hlimit hlawful hprocess preparations hprepared rfl hacquired
    (Chain.stands_nil (hreached.atStart_acquire (host.registry w)))

/-- The host of a single pool, whose stages answer with their tags. -/
def obedient : ChainHost (ChainPool Directive) Directive where
  pool _ :=
    { read := id
      write := fun pool _ ↦ pool }
  registry _ := .new 1 16
  process tag view := fun pool ↦ ((.ok (.ok tag), view), pool)

/-- A chain whose first stage suspends, resumed once. -/
theorem orderly_passes_suspendThenInvoke :
    let chain : Chain Directive :=
      ⟨"greeting", [⟨"wait", .suspend⟩, ⟨"reply", .invoke⟩], { maxConsecutiveReruns := 3 }⟩
    let prepare : Lease → StateM (ChainPool Directive) PassInput := fun lease ↦
      pure ⟨⟨.read, none⟩, .detached, lease.inst.invocation⟩
    chain.stages ≠ [] ∧ chain.settings.maxConsecutiveReruns + 1 < rerunCounterSize ∧
      chain.Orderly [] (obedient.passes (obedient.acquire ⟨0⟩ { chain }).1 [prepare, prepare]
        (obedient.acquire ⟨0⟩ { chain }).2).1 := by
  intro chain prepare
  have hstages : chain.stages ≠ [] := List.cons_ne_nil _ _
  have hlimit : chain.settings.maxConsecutiveReruns + 1 < rerunCounterSize := by decide
  have hprepared : ∀ prepare' ∈ [prepare, prepare], ∀ lease, obedient.Keeps ⟨0⟩ (prepare' lease) := by
    intro prepare' hmem lease w
    rcases List.mem_cons.1 hmem with rfl | hmem
    · rfl
    · obtain rfl := List.mem_singleton.1 hmem
      rfl
  exact ⟨hstages, hlimit, orderly_passes hstages hlimit
    ⟨fun _ _ ↦ rfl, fun _ ↦ rfl, fun _ _ _ ↦ rfl⟩ (fun _ _ _ ↦ rfl) [prepare, prepare] hprepared .new⟩

end ChainHost

end Conduit
