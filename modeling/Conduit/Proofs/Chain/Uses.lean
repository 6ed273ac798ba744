import Conduit.Proofs.Chain.Passes
import Conduit.Proofs.Chain.Program
import Conduit.Proofs.Chain.Visits

/-!
# Uses of instances

A use of an instance begins when the instance is handed out. Its holder runs a pass, and another one
whenever the last one was suspended. The use ends with the first pass that is not, or when the holder
gives a suspended lease up; the instance is back in its pool then, and may be handed out again.

`ChainHost.uses` carries out one use after another and records every pass with its visits. Before a use
and before each of its passes anything may happen, other uses of the same pool included: of the pool it
is only known that instances are handed out and taken back (`ChainPool.Exchanges`).

The steps of a use are what its holder and its stages do to the attributes of the invocation. They are
linked, each one finding what the step before left, and the first one finds what was handed out
(`Spent.linked`), which is an instance with nothing in it (`spent_uses`). Whatever a step finds has
therefore been put there by an earlier step of the same use (`Linked.exists_put`).
-/

namespace Conduit

/-! ### What may happen to a pool -/

namespace ChainPool

variable {S : Type} {chain : Chain S} {pool pool' : ChainPool S}

/-- What becomes of a pool while instances are handed out and instances with sound stores are taken
back. -/
inductive Exchanges : ChainPool S → ChainPool S → Prop where
  /-- Nothing has happened. -/
  | refl (pool : ChainPool S) : Exchanges pool pool
  /-- In the end, an instance was handed out. -/
  | acquire {pool pool' : ChainPool S} (registry : Registry) (h : Exchanges pool pool') :
      Exchanges pool (ChainPool.acquire registry pool').2
  /-- In the end, an instance was taken back. -/
  | release {pool pool' : ChainPool S} {inst : ChainInstance} (hsound : inst.invocation.Sound)
      (h : Exchanges pool pool') : Exchanges pool (pool'.release inst)

/-- A pool that hands out instances and takes them back stays tidy. -/
theorem Exchanges.tidy (h : Exchanges pool pool') (htidy : pool.Tidy chain) : pool'.Tidy chain := by
  induction h with
  | refl => exact htidy
  | acquire registry _ ih => exact (ih.acquire registry).1
  | release hsound _ ih => exact ih.release hsound

/-- What is handed out is as a new instance. -/
theorem Tidy.rested_acquire (h : pool.Tidy chain) (registry : Registry) :
    (ChainPool.acquire registry pool).1.Rested := by
  rcases acquire_cases registry pool with ⟨inst, idle, hidle, heq⟩ | ⟨-, heq⟩
  · rw [heq]
    exact h.rested inst (by rw [hidle]; exact List.mem_cons_self)
  · rw [heq]
    exact ⟨⟨rfl, rfl⟩, AttributeStore.blank_new registry⟩

end ChainPool

/-- Stages change the attributes by the operations of a store, and what they do to the pool is to hand
out instances and to take them back. -/
structure ChainHost.Trades {W S : Type} (host : ChainHost W S) (ref : PoolRef) : Prop where
  lawful : (host.pool ref).Lawful
  process : ∀ tag view w, view.Sound →
    ((host.pool ref).read w).Exchanges ((host.pool ref).read (host.process tag view w).2) ∧
      (host.process tag view w).1.2.Sound

/-! ### Uses and their records -/

/-- What the user of an instance is going to do. -/
structure UsePlan (W : Type) where
  /-- What happens before the instance is handed out. -/
  meanwhile : StateM W Unit
  /-- What is done before each pass, as long as the one before was suspended. If the last one is
  suspended as well, the lease is given up. -/
  preparations : List (Lease → StateM W PassInput)

/-- A plan does to the pool what stages may do, and gives sound stores to its passes. -/
structure UsePlan.Trades {W S : Type} (host : ChainHost W S) (ref : PoolRef) (plan : UsePlan W) :
    Prop where
  meanwhile : ∀ w,
    ((host.pool ref).read w).Exchanges ((host.pool ref).read (plan.meanwhile w).2)
  prepared : ∀ prepare ∈ plan.preparations, ∀ lease w, lease.inst.invocation.Sound →
    ((host.pool ref).read w).Exchanges ((host.pool ref).read (prepare lease w).2) ∧
      (prepare lease w).1.connection.Sound ∧ (prepare lease w).1.invocation.Sound

/-- The record of a pass. -/
structure UsePass (W S : Type) where
  /-- The attributes of the invocation as the holder of the lease found them. -/
  found : AttributeStore
  /-- What the holder made of it. -/
  pass : Pass
  /-- The state in which the pass began. -/
  before : W
  /-- The visits that it made. -/
  visits : List (StageVisit W S)
  /-- What the holder was told. -/
  ending : ChainReply

/-- The record of a use. -/
structure InstanceUse (W S : Type) where
  /-- The instance as it was handed out. -/
  acquired : ChainInstance
  /-- The passes. -/
  passes : List (UsePass W S)

namespace ChainHost

variable {W S : Type}

/-- The record of the pass that a lease is used for. -/
def passOn (host : ChainHost W S) (lease : Lease) (input : PassInput) (w : W) : UsePass W S :=
  let given := lease.withInvocation input.invocation
  let pass := ⟨input.event, input.connection, given.inst⟩
  ⟨lease.inst.invocation, pass, w, ((host.pool lease.pool).read w).chain.visitsOf host pass w,
    (host.execute given input.event input.connection w).1.1⟩

/-- Uses a lease until a pass is not suspended, or gives it up. -/
def spend (host : ChainHost W S) :
    Lease → List (Lease → StateM W PassInput) → StateM W (List (UsePass W S))
  | lease, [] => do
    host.release lease
    return []
  | lease, prepare :: rest => do
    let input ← prepare lease
    let pass := host.passOn lease input (← get)
    let (ending, _) ← host.execute (lease.withInvocation input.invocation) input.event
      input.connection
    match ending with
    | .ok (.ok (.suspended next)) => return pass :: (← host.spend next rest)
    | _ => return [pass]

/-- Uses instances of a pool, one after another. -/
def uses (host : ChainHost W S) (ref : PoolRef) :
    List (UsePlan W) → StateM W (List (InstanceUse W S))
  | [] => pure []
  | plan :: rest => do
    plan.meanwhile
    let lease ← host.acquire ref
    let passes ← host.spend lease plan.preparations
    return ⟨lease.inst, passes⟩ :: (← host.uses ref rest)

end ChainHost

/-! ### Steps -/

/-- What happens to the attributes of an invocation. -/
inductive UseStep (W S : Type) where
  /-- The holder of the lease prepared a pass. -/
  | prepared (found left : AttributeStore)
  /-- A stage was visited. -/
  | visited (visit : StageVisit W S)

namespace UseStep

variable {W S A : Type} {step : UseStep W S} {steps : List (UseStep W S)} {store : AttributeStore}

/-- The attributes before the step. -/
def found : UseStep W S → AttributeStore
  | prepared found _ => found
  | visited visit => visit.view.invocation

/-- The attributes after the step. -/
def left : UseStep W S → AttributeStore
  | prepared _ left => left
  | visited visit => visit.left.invocation

/-- The step is a visit of a stage with that tag. -/
def Visits (d : S) : UseStep W S → Prop
  | prepared _ _ => False
  | visited visit => visit.tag = d

/-- One step after another, each finding what the one before left. -/
inductive Linked : AttributeStore → List (UseStep W S) → Prop where
  | nil (store : AttributeStore) : Linked store []
  | cons {store : AttributeStore} {step : UseStep W S} {steps : List (UseStep W S)}
      (hfound : step.found = store) (rest : Linked step.left steps) : Linked store (step :: steps)

/-- Of two steps in a row, the second one finds what the first one left. -/
theorem Linked.found_eq {earlier later : List (UseStep W S)} {next : UseStep W S}
    (h : Linked store (earlier ++ step :: next :: later)) : next.found = step.left := by
  induction earlier generalizing store with
  | nil =>
    rcases h with - | ⟨-, hrest⟩
    rcases hrest with - | ⟨hfound, -⟩
    exact hfound
  | cons first earlier ih =>
    rcases h with - | ⟨-, hrest⟩
    exact ih hrest

/-- **What is found was put there.** If something is read off the attributes that a step finds, and was
not at first, then there is an earlier step that made it so, and it has been so ever since. -/
theorem Linked.exists_put {value : A} {before after : List (UseStep W S)}
    (h : Linked store (before ++ step :: after)) (read : AttributeStore → A) (hstore : read store ≠ value)
    (hfound : read step.found = value) :
    ∃ earlier setter since, before = earlier ++ setter :: since ∧ read setter.found ≠ value ∧
      read setter.left = value ∧
      ∀ other ∈ since, read other.found = value ∧ read other.left = value := by
  induction before using List.reverseRecOn generalizing step after with
  | nil =>
    rcases h with - | ⟨rfl, -⟩
    exact absurd hfound hstore
  | append_singleton before last ih =>
    rw [List.append_assoc, List.singleton_append] at h
    have hleft : read last.left = value := by rw [← h.found_eq, hfound]
    by_cases hlast : read last.found = value
    · obtain ⟨earlier, setter, since, rfl, hnot, hput, hsince⟩ := ih h hlast
      refine ⟨earlier, setter, since ++ [last], by simp, hnot, hput, fun other hmem ↦ ?_⟩
      rcases List.mem_append.1 hmem with hmem | hmem
      · exact hsince other hmem
      · obtain rfl := List.mem_singleton.1 hmem
        exact ⟨hlast, hleft⟩
    · exact ⟨before, last, [], rfl, hlast, hleft, by simp⟩

end UseStep

/-- The steps of a pass: what its holder did, and then the visits. -/
def UsePass.steps {W S : Type} (pass : UsePass W S) : List (UseStep W S) :=
  .prepared pass.found pass.pass.inst.invocation :: pass.visits.map .visited

/-- The steps of a use. -/
def InstanceUse.steps {W S : Type} (use : InstanceUse W S) : List (UseStep W S) :=
  use.passes.flatMap UsePass.steps

theorem InstanceUse.exists_of_mem_steps {W S : Type} {use : InstanceUse W S}
    {visit : StageVisit W S} (h : .visited visit ∈ use.steps) :
    ∃ pass ∈ use.passes, visit ∈ pass.visits := by
  obtain ⟨pass, hpass, hmem⟩ := List.mem_flatMap.1 h
  rcases List.mem_cons.1 hmem with heq | hmem
  · cases heq
  · obtain ⟨other, hvisit, heq⟩ := List.mem_map.1 hmem
    cases heq
    exact ⟨pass, hpass, hvisit⟩

/-! ### What a use amounts to -/

namespace Chain

variable {W S : Type} {host : ChainHost W S} {chain : Chain S} {ref : PoolRef} {w w' : W}
  {pass left : Pass} {outcome : Except Panic PassEnd} {visits : List (StageVisit W S)}
  {visit : StageVisit W S} {steps : List (UseStep W S)}

/-- The passes of a use, from the attributes of the invocation on: each one makes a tour and is ended
by it, and goes on where the one before was suspended. -/
inductive Spent (host : ChainHost W S) (chain : Chain S) (ref : PoolRef) :
    AttributeStore → List (UsePass W S) → Prop where
  /-- There is no further pass. -/
  | finished (store : AttributeStore) : Spent host chain ref store []
  /-- A pass before others. -/
  | more {record : UsePass W S} {records : List (UsePass W S)} {outcome : Except Panic PassEnd}
      {left : Pass} {w' : W}
      (tour : chain.Tour host record.pass record.before record.visits outcome left w')
      (ending : record.ending = Lease.told ⟨ref, left.inst⟩ outcome)
      (suspended : records ≠ [] → outcome = .ok .suspended)
      (rest : Spent host chain ref left.inst.invocation records) :
      Spent host chain ref record.found (record :: records)

/-- The steps of a pass are linked, and so is what goes on with what it leaves. -/
theorem Tour.linked (h : chain.Tour host pass w visits outcome left w')
    (hsteps : UseStep.Linked left.inst.invocation steps) :
    UseStep.Linked pass.inst.invocation (visits.map .visited ++ steps) := by
  induction h with
  | through _ => exact hsteps
  | @last pass w visit outcome _ hvisit _ =>
    have hleft : ((pass.update visit.left).leftBy outcome).inst.invocation =
        (UseStep.visited visit).left := by
      unfold Pass.leftBy
      split <;> rfl
    exact .cons (by rw [hvisit]; rfl) (hleft ▸ hsteps)
  | @more pass next left w w' visit visits outcome _ hvisit honward rest ih =>
    have hnext : next.inst.invocation = (UseStep.visited visit).left := by cases honward <;> rfl
    exact .cons (by rw [hvisit]; rfl) (hnext ▸ ih hsteps)

/-- **The steps of a use are linked.** -/
theorem Spent.linked {store : AttributeStore} {records : List (UsePass W S)}
    (h : Spent host chain ref store records) :
    UseStep.Linked store (records.flatMap UsePass.steps) := by
  induction h with
  | finished store => exact .nil store
  | more tour _ _ _ ih => exact .cons rfl (tour.linked ih)

/-- Every pass makes a tour and is ended by it. -/
theorem Spent.tour {store : AttributeStore} {records : List (UsePass W S)}
    (h : Spent host chain ref store records) {record : UsePass W S} (hmem : record ∈ records) :
    ∃ outcome left w', chain.Tour host record.pass record.before record.visits outcome left w' ∧
      record.ending = Lease.told ⟨ref, left.inst⟩ outcome := by
  induction h with
  | finished => cases hmem
  | more tour ending _ _ ih =>
    rcases List.mem_cons.1 hmem with rfl | hmem
    · exact ⟨_, _, _, tour, ending⟩
    · exact ih hmem

end Chain

/-! ### Carrying out uses -/

namespace ChainHost

variable {W S : Type} {host : ChainHost W S} {chain : Chain S} {ref : PoolRef} {lease : Lease}
  {w : W}

/-- If stages keep the pool tidy and the attributes in sound stores, so does a pass. -/
theorem tidy_run
    (hprocess : ∀ tag view w, ((host.pool ref).read w).Tidy chain → view.Sound →
      ((host.pool ref).read (host.process tag view w).2).Tidy chain ∧
        (host.process tag view w).1.2.Sound)
    (pass : Pass) (htidy : ((host.pool ref).read w).Tidy chain)
    (hconnection : pass.connection.Sound) (hinvocation : pass.inst.invocation.Sound) :
    ((host.pool ref).read (chain.run host pass w).2).Tidy chain ∧
      (chain.run host pass w).1.2.connection.Sound ∧
      (chain.run host pass w).1.2.inst.invocation.Sound := by
  refine Chain.run_preserves
    (fun pass w ↦ ((host.pool ref).read w).Tidy chain ∧ pass.connection.Sound ∧
      pass.inst.invocation.Sound) ?_ (fun _ _ h ↦ h) (fun _ _ h ↦ h)
    ⟨htidy, hconnection, hinvocation⟩
  rintro pass w stage ⟨htidy, hconnection, hinvocation⟩
  obtain ⟨htidy', hview⟩ := hprocess stage.tag (pass.view chain.name) w htidy
    ⟨hconnection, hinvocation⟩
  exact ⟨htidy', hview.connection, hview.invocation⟩

/-- A stage leaves the pool tidy and its stores sound. -/
theorem Trades.tidy_process (htrades : host.Trades ref) (tag : S) (view : StageView) (w : W)
    (htidy : ((host.pool ref).read w).Tidy chain) (hview : view.Sound) :
    ((host.pool ref).read (host.process tag view w).2).Tidy chain ∧
      (host.process tag view w).1.2.Sound := by
  obtain ⟨hexchanges, hleft⟩ := htrades.process tag view w hview
  exact ⟨hexchanges.tidy htidy, hleft⟩

/-- A pass on a lease makes a tour, and is ended by it. -/
theorem tour_execute (htrades : host.Trades ref) (hpool : lease.pool = ref)
    (hinvocation : lease.inst.invocation.Sound) (event : Event) {connection : AttributeStore}
    (hconnection : connection.Sound) (htidy : ((host.pool ref).read w).Tidy chain) :
    ∃ outcome left w',
      chain.Tour host ⟨event, connection, lease.inst⟩ w
        (((host.pool lease.pool).read w).chain.visitsOf host ⟨event, connection, lease.inst⟩ w)
        outcome left w' ∧
      (host.execute lease event connection w).1.1 = Lease.told ⟨ref, left.inst⟩ outcome ∧
      ((host.pool ref).read (host.execute lease event connection w).2).Tidy chain ∧
      left.inst.invocation.Sound := by
  subst hpool
  have htour := chain.tour_run host ⟨event, connection, lease.inst⟩ w
  obtain ⟨htidy', -, hsound⟩ := tidy_run htrades.tidy_process ⟨event, connection, lease.inst⟩ htidy
    hconnection hinvocation
  rw [htidy.chain_eq]
  rcases hrun : chain.run host ⟨event, connection, lease.inst⟩ w with ⟨⟨outcome, left⟩, w'⟩
  rw [hrun] at htour htidy' hsound
  rw [← htidy.chain_eq] at hrun
  refine ⟨outcome, left, w', htour, execute_told hrun, ?_, hsound⟩
  by_cases hsuspended : outcome = .ok .suspended
  · subst hsuspended
    rw [execute_of_suspended hrun]
    exact htidy'
  · rw [execute_of_ended hsuspended hrun]
    show ((host.pool lease.pool).read ((host.pool lease.pool).write _ w')).Tidy chain
    rw [htrades.lawful.read_write]
    exact htidy'.release hsound

section Spend

variable {prepare : Lease → StateM W PassInput} {rest : List (Lease → StateM W PassInput)}
  {input : PassInput} {w₁ w₂ : W} {left : AttributeStore}

theorem spend_of_suspended {next : Lease} (hprepare : prepare lease w = (input, w₁))
    (hexecute : host.execute (lease.withInvocation input.invocation) input.event input.connection w₁ =
      ((.ok (.ok (.suspended next)), left), w₂)) :
    host.spend lease (prepare :: rest) w =
      (host.passOn lease input w₁ :: (host.spend next rest w₂).1, (host.spend next rest w₂).2) := by
  simp only [spend, bind, StateT.bind, get, getThe, MonadStateOf.get, StateT.get, pure, hprepare,
    hexecute]
  rfl

theorem spend_of_ended {ending : ChainReply} (hne : ∀ next, ending ≠ .ok (.ok (.suspended next)))
    (hprepare : prepare lease w = (input, w₁))
    (hexecute : host.execute (lease.withInvocation input.invocation) input.event input.connection w₁ =
      ((ending, left), w₂)) :
    host.spend lease (prepare :: rest) w = ([host.passOn lease input w₁], w₂) := by
  simp only [spend, bind, StateT.bind, get, getThe, MonadStateOf.get, StateT.get, pure, hprepare,
    hexecute]
  rfl

end Spend

/-- A lease is used as it should be, and the pool stays tidy. -/
theorem spent_spend (htrades : host.Trades ref) (preparations : List (Lease → StateM W PassInput))
    (hprepared : ∀ prepare ∈ preparations, ∀ lease w, lease.inst.invocation.Sound →
      ((host.pool ref).read w).Exchanges ((host.pool ref).read (prepare lease w).2) ∧
        (prepare lease w).1.connection.Sound ∧ (prepare lease w).1.invocation.Sound)
    (hpool : lease.pool = ref) (hsound : lease.inst.invocation.Sound)
    (htidy : ((host.pool ref).read w).Tidy chain) :
    Chain.Spent host chain ref lease.inst.invocation (host.spend lease preparations w).1 ∧
      ((host.pool ref).read (host.spend lease preparations w).2).Tidy chain := by
  induction preparations generalizing lease w with
  | nil =>
    refine ⟨.finished _, ?_⟩
    subst hpool
    show ((host.pool lease.pool).read ((host.pool lease.pool).write _ w)).Tidy chain
    rw [htrades.lawful.read_write]
    exact htidy.release hsound
  | cons prepare rest ih =>
    obtain ⟨hexchanges, hconnection, hinvocation⟩ :=
      hprepared prepare List.mem_cons_self lease w hsound
    rcases hprepare : prepare lease w with ⟨input, w₁⟩
    rw [hprepare] at hexchanges hconnection hinvocation
    have hgiven : (lease.withInvocation input.invocation).pool = ref := hpool
    obtain ⟨outcome, left, w', htour, htold, htidy', hleft⟩ := tour_execute htrades hgiven hinvocation
      input.event hconnection (hexchanges.tidy htidy)
    rcases hexecute : host.execute (lease.withInvocation input.invocation) input.event
      input.connection w₁ with ⟨⟨ending, connection⟩, w₂⟩
    have hending : (host.passOn lease input w₁).ending = Lease.told ⟨ref, left.inst⟩ outcome := htold
    rw [hexecute] at htold htidy'
    obtain rfl : ending = Lease.told ⟨ref, left.inst⟩ outcome := htold
    by_cases hsuspended : outcome = .ok .suspended
    · subst hsuspended
      have hnext : (Lease.mk ref left.inst).pool = ref := rfl
      obtain ⟨hspent, htidy''⟩ := ih
        (fun prepare hmem ↦ hprepared prepare (List.mem_cons_of_mem _ hmem)) hnext hleft htidy'
      rw [spend_of_suspended hprepare hexecute]
      exact ⟨.more htour hending (fun _ ↦ rfl) hspent, htidy''⟩
    · have hne : ∀ next, Lease.told ⟨ref, left.inst⟩ outcome ≠ .ok (.ok (.suspended next)) :=
        fun next htold ↦ hsuspended (Lease.told_eq_suspended_iff.1 htold).1
      rw [spend_of_ended hne hprepare hexecute]
      exact ⟨.more htour hending (fun hrest ↦ absurd rfl hrest) (.finished _), htidy'⟩

/-- **Every use is one of its own.** It begins with an instance in which nothing is left, whatever
became of the uses before. -/
theorem spent_uses (htrades : host.Trades ref) (plans : List (UsePlan W))
    (hplans : ∀ plan ∈ plans, plan.Trades host ref)
    (htidy : ((host.pool ref).read w).Tidy chain) :
    ∀ use ∈ (host.uses ref plans w).1, use.acquired.Rested ∧
      Chain.Spent host chain ref use.acquired.invocation use.passes := by
  induction plans generalizing w with
  | nil =>
    intro use hmem
    cases hmem
  | cons plan rest ih =>
    obtain ⟨hmeanwhile, hprepared⟩ := hplans plan List.mem_cons_self
    have htidy₁ := (hmeanwhile w).tidy htidy
    have hrested := htidy₁.rested_acquire (host.registry (plan.meanwhile w).2)
    have htidy₂ : ((host.pool ref).read (host.acquire ref (plan.meanwhile w).2).2).Tidy chain := by
      show ((host.pool ref).read ((host.pool ref).write _ _)).Tidy chain
      rw [htrades.lawful.read_write]
      exact (htidy₁.acquire _).1
    have hpool : (host.acquire ref (plan.meanwhile w).2).1.pool = ref := rfl
    obtain ⟨hspent, htidy₃⟩ := spent_spend htrades plan.preparations hprepared hpool
      hrested.2.sound htidy₂
    intro use hmem
    rcases List.mem_cons.1 hmem with rfl | hmem
    · exact ⟨hrested, hspent⟩
    · exact ih (fun plan hmem ↦ hplans plan (List.mem_cons_of_mem _ hmem)) htidy₃ use hmem

end ChainHost

end Conduit
