import Conduit.Proofs.Chain.Pool
import Conduit.Proofs.Chain.Program

/-!
# Every instance is in one place

Whatever programs do with leases, and whatever stages do while they run, at every moment the instances
of a pool are unused or out, and its counters say what has happened (`Program.accounted_run`).

The account of a world consists of the moments that are over and of the pools as they are now
(`PoolWorld.Accounted`). It does not hold in the middle of an operation, when a lease was already taken
from where it was held, so each operation is followed from the pools before it to the moment that it
adds to the history. A pass is the one operation that contains others. What it keeps besides the
account is that it is still the innermost one that runs, on the same instance.
-/

namespace Conduit

/-! ### Accounts -/

/-- The numbers of the instances of a pool among the given ones. -/
def LeaseName.numbersOf (ref : PoolRef) (names : List LeaseName) : List Nat :=
  (names.filter fun name ↦ name.pool = ref).map LeaseName.id

/-- Whether a lease of a pool was acquired. -/
def PoolEvent.acquiresFrom (ref : PoolRef) : PoolEvent → Bool
  | acquired name => name.pool = ref
  | _ => false

namespace PoolMoment

variable {S : Type}

/-- How many leases of a pool were acquired. -/
def acquires (ref : PoolRef) (history : List (PoolMoment S)) : Nat :=
  history.countP fun moment ↦ moment.event.acquiresFrom ref

/-- The largest number of leases of a pool that were out at once. -/
def peak (ref : PoolRef) (history : List (PoolMoment S)) : Nat :=
  (history.map fun moment ↦ (LeaseName.numbersOf ref moment.out).length).foldr max 0

/-- What is true of a moment, after those before it. -/
structure Settled (moment : PoolMoment S) (earlier : List (PoolMoment S)) : Prop where
  /-- The pools and the leases agree. -/
  balanced : ∀ ref, (moment.pools ref).Balanced (LeaseName.numbersOf ref moment.out)
    (acquires ref (moment :: earlier)) (peak ref (moment :: earlier))
  /-- An execution that returns a suspended lease leaves it out. -/
  suspended : ∀ name lease, moment.event = .executed name (.ok (.ok (.suspended lease))) →
    lease.name = name ∧ name.id ∈ LeaseName.numbersOf name.pool moment.out ∧
      name.id ∉ (moment.pools name.pool).idle.map ChainInstance.id
  /-- An execution that returns anything else has returned the instance before. -/
  returned : ∀ name reply, moment.event = .executed name reply →
    (∀ lease, reply ≠ .ok (.ok (.suspended lease))) →
    name.id ∈ (moment.pools name.pool).idle.map ChainInstance.id ∧
      name.id ∉ LeaseName.numbersOf name.pool moment.out

end PoolMoment

namespace PoolWorld

variable {S U : Type} {w : PoolWorld S U} {names : List LeaseName} {event : PoolEvent}

/-- The pools agree with the leases that are out. -/
def Balances (w : PoolWorld S U) (names : List LeaseName) : Prop :=
  ∀ ref, (w.pools ref).Balanced (LeaseName.numbersOf ref names) (PoolMoment.acquires ref w.history)
    (PoolMoment.peak ref w.history)

/-- The account of a world. -/
structure Accounted (w : PoolWorld S U) : Prop where
  /-- Every moment is settled. -/
  moments : ∀ later moment earlier, w.history = later ++ moment :: earlier → moment.Settled earlier
  /-- The pools agree with the leases that are out now. -/
  now : w.Balances w.out
  /-- The attributes of the leases that are held are in sound stores. -/
  sound : ∀ lease ∈ w.held, lease.inst.invocation.Sound

/-- An operation that keeps the account, and the passes that run. -/
def Keeps {A : Type} (operation : StateM (PoolWorld S U) A) : Prop :=
  ∀ w, w.Accounted → (operation w).2.Accounted ∧ (operation w).2.running = w.running

end PoolWorld

/-! ### Numbers of one pool -/

namespace LeaseName

variable {ref : PoolRef} {name : LeaseName} {names other : List LeaseName}

theorem numbersOf_cons_self (ref : PoolRef) (id : Nat) (names : List LeaseName) :
    numbersOf ref (⟨ref, id⟩ :: names) = id :: numbersOf ref names := by
  simp [numbersOf]

theorem numbersOf_cons_ne (h : name.pool ≠ ref) (names : List LeaseName) :
    numbersOf ref (name :: names) = numbersOf ref names := by
  simp [numbersOf, h]

theorem perm_numbersOf (h : names.Perm other) :
    (numbersOf ref names).Perm (numbersOf ref other) :=
  (h.filter _).map _

end LeaseName

namespace PoolWorld

variable {S U : Type} {w : PoolWorld S U} {names : List LeaseName} {event : PoolEvent}

theorem Balances.of_perm {other : List LeaseName} (h : w.Balances names)
    (hperm : names.Perm other) : w.Balances other :=
  fun ref ↦ (h ref).of_perm (LeaseName.perm_numbersOf hperm)

/-! ### Moments -/

/-- In the beginning nothing is held, and everything is accounted for. -/
theorem accounted_fresh (chains : PoolRef → Chain S) (user : U) : (fresh chains user).Accounted where
  moments := by simp [fresh]
  now ref := ChainPool.balanced_new
  sound := by simp [fresh]

/-- What has happened is settled when the pools agree with the leases by then. -/
theorem Accounted.note {before : PoolWorld S U} (h : before.Accounted)
    (hhistory : w.history = before.history)
    (hsettled : PoolMoment.Settled ⟨event, w.pools, w.out⟩ before.history)
    (hsound : ∀ lease ∈ w.held, lease.inst.invocation.Sound) : (w.note event).Accounted where
  moments later moment earlier heq := by
    rw [← hhistory] at hsettled
    rcases later with - | ⟨last, later⟩
    · obtain ⟨rfl, rfl⟩ := List.cons_eq_cons.1 heq
      exact hsettled
    · obtain ⟨-, hrest⟩ := List.cons_eq_cons.1 heq
      exact h.moments later moment earlier (hhistory ▸ hrest)
  now ref := by
    rw [← hhistory] at hsettled
    exact hsettled.balanced ref
  sound := hsound

/-- Nothing that acquires no lease changes the agreement. -/
theorem Balances.balanced_note (h : w.Balances w.out)
    (hquiet : ∀ ref, event.acquiresFrom ref = false) (ref : PoolRef) :
    (w.pools ref).Balanced (LeaseName.numbersOf ref w.out)
      (PoolMoment.acquires ref (⟨event, w.pools, w.out⟩ :: w.history))
      (PoolMoment.peak ref (⟨event, w.pools, w.out⟩ :: w.history)) := by
  have hacquires : PoolMoment.acquires ref (⟨event, w.pools, w.out⟩ :: w.history) =
      PoolMoment.acquires ref w.history := by
    rw [PoolMoment.acquires, List.countP_cons_of_neg (by simp [hquiet ref]), PoolMoment.acquires]
  have hpeak : PoolMoment.peak ref (⟨event, w.pools, w.out⟩ :: w.history) =
      PoolMoment.peak ref w.history :=
    Nat.max_eq_right (h ref).length_le
  rw [hacquires, hpeak]
  exact h ref

/-- What neither acquires a lease nor ends an execution is settled by the agreement alone. -/
theorem Accounted.note_quiet {before : PoolWorld S U} (h : before.Accounted)
    (hhistory : w.history = before.history) (hnow : w.Balances w.out)
    (hquiet : ∀ ref, event.acquiresFrom ref = false)
    (hexecuted : ∀ name reply, event ≠ .executed name reply)
    (hsound : ∀ lease ∈ w.held, lease.inst.invocation.Sound) : (w.note event).Accounted := by
  refine h.note hhistory ?_ hsound
  rw [← hhistory]
  exact
    { balanced := hnow.balanced_note hquiet
      suspended := fun name lease heq ↦ absurd heq (hexecuted name _)
      returned := fun name reply heq ↦ absurd heq (hexecuted name reply) }

/-! ### Taking and returning a lease -/

theorem perm_cons_eraseP {leases : List Lease} {lease : Lease} {p : Lease → Bool}
    (h : leases.find? p = some lease) : leases.Perm (lease :: leases.eraseP p) := by
  induction leases with
  | nil => simp at h
  | cons first rest ih =>
    by_cases hp : p first
    · rw [List.find?_cons_of_pos hp] at h
      obtain rfl := Option.some.inj h
      rw [List.eraseP_cons_of_pos hp]
    · rw [List.find?_cons_of_neg hp] at h
      rw [List.eraseP_cons_of_neg hp]
      exact ((ih h).cons first).trans (List.Perm.swap _ _ _)

/-- A lease that was taken is out, but no longer held. -/
structure Took (w : PoolWorld S U) (lease : Lease) (taken : PoolWorld S U) : Prop where
  invocation : lease.inst.invocation.Sound
  history : taken.history = w.history
  running : taken.running = w.running
  balances : taken.Balances (lease.name :: taken.out)
  held : ∀ other ∈ taken.held, other.inst.invocation.Sound

/-- A lease that is taken from those that are held is the one that was named. -/
theorem Accounted.take {name : LeaseName} {lease : Lease} {taken : PoolWorld S U}
    (h : w.Accounted) (htake : w.take name = some (lease, taken)) :
    lease.name = name ∧ w.Took lease taken := by
  obtain ⟨found, hfind, heq⟩ := Option.map_eq_some_iff.1 htake
  obtain ⟨rfl, rfl⟩ := Prod.mk.inj heq
  have hperm := perm_cons_eraseP hfind
  have hname : found.name = name := by simpa using List.find?_some hfind
  have hout : w.out.Perm (found.name ::
      ((w.held.eraseP fun lease ↦ lease.name = name).map Lease.name ++ w.running)) :=
    (hperm.map Lease.name).append_right w.running
  exact ⟨hname, h.sound found (List.mem_of_find?_eq_some hfind), rfl, rfl, h.now.of_perm hout,
    fun other hmem ↦ h.sound other (List.mem_of_mem_eraseP hmem)⟩

/-- A lease that is returned is out no more. -/
theorem Balances.release {registry : U → Registry}
    {act : S → StageView → StateM (PoolWorld S U) (StageAnswer × StageEdit)} {lease : Lease}
    (h : w.Balances (lease.name :: names)) (hsound : lease.inst.invocation.Sound) :
    ((host registry act).release lease w).2.Balances names := by
  intro ref
  have hbalanced := h ref
  show ChainPool.Balanced
    (if ref = lease.pool then (w.pools lease.pool).release lease.inst else w.pools ref) _ _ _
  by_cases href : lease.pool = ref
  · subst href
    rw [Lease.name, LeaseName.numbersOf_cons_self] at hbalanced
    rw [if_pos rfl]
    exact hbalanced.release hsound
  · rw [LeaseName.numbersOf_cons_ne href] at hbalanced
    rw [if_neg (Ne.symm href)]
    exact hbalanced

/-! ### Every operation keeps the account -/

/-- To acquire is to have an instance handed out, and to hold a lease on it. -/
theorem acquire_eq (registry : U → Registry) (pool : PoolRef) (w : PoolWorld S U) :
    acquire registry pool w =
      let handed := ChainPool.acquire (registry w.user) (w.pools pool)
      (⟨pool, handed.1.id⟩,
        { w with
          pools := fun other ↦ if other = pool then handed.2 else w.pools other
          held := ⟨pool, handed.1⟩ :: w.held }.note (.acquired ⟨pool, handed.1.id⟩)) :=
  rfl

/-- **An acquisition keeps the account**. -/
theorem keeps_acquire (registry : U → Registry) (pool : PoolRef) :
    Keeps (acquire registry pool : StateM (PoolWorld S U) LeaseName) := by
  intro w h
  have hhanded := (h.now pool).acquire (registry w.user)
  have hinst := (h.now pool).sound_acquire (registry w.user)
  rw [acquire_eq]
  generalize ChainPool.acquire (registry w.user) (w.pools pool) = handed at hhanded hinst ⊢
  refine ⟨h.note rfl ⟨fun ref ↦ ?_, nofun, nofun⟩ fun lease hmem ↦ ?_, rfl⟩
  · show ChainPool.Balanced (if ref = pool then handed.2 else w.pools ref)
      (LeaseName.numbersOf ref (⟨pool, handed.1.id⟩ :: w.out))
      (PoolMoment.acquires ref (⟨.acquired ⟨pool, handed.1.id⟩, _, _⟩ :: w.history))
      (max (LeaseName.numbersOf ref (⟨pool, handed.1.id⟩ :: w.out)).length
        (PoolMoment.peak ref w.history))
    by_cases href : pool = ref
    · subst href
      rw [if_pos rfl, LeaseName.numbersOf_cons_self, PoolMoment.acquires,
        List.countP_cons_of_pos (by simp [PoolEvent.acquiresFrom])]
      exact hhanded
    · rw [if_neg (Ne.symm href), LeaseName.numbersOf_cons_ne href, PoolMoment.acquires,
        List.countP_cons_of_neg (by simp [PoolEvent.acquiresFrom, href]),
        Nat.max_eq_right (h.now ref).length_le]
      exact h.now ref
  · rcases List.mem_cons.1 hmem with rfl | hmem
    · exact hinst
    · exact h.sound lease hmem

/-- So does a lease that is dropped. -/
theorem keeps_drop (registry : U → Registry) (name : LeaseName) :
    Keeps (drop registry name : StateM (PoolWorld S U) Bool) := by
  intro w h
  unfold PoolWorld.drop
  rcases htake : w.take name with - | ⟨lease, taken⟩
  · exact ⟨h, rfl⟩
  · obtain ⟨rfl, htook⟩ := h.take htake
    have hreleased : ((quiet registry).release lease taken).2.Balances taken.out :=
      htook.balances.release htook.invocation
    exact ⟨h.note_quiet htook.history hreleased (fun _ ↦ rfl) nofun htook.held, htook.running⟩

theorem keeps_alter (name : LeaseName) (edit : StoreEdit) :
    Keeps (alter name edit : StateM (PoolWorld S U) Bool) := by
  intro w h
  unfold PoolWorld.alter
  rcases htake : w.take name with - | ⟨lease, taken⟩
  · exact ⟨h, rfl⟩
  · obtain ⟨rfl, htook⟩ := h.take htake
    refine ⟨h.note_quiet htook.history htook.balances (fun _ ↦ rfl) nofun fun other hmem ↦ ?_,
      htook.running⟩
    rcases List.mem_cons.1 hmem with rfl | hmem
    · exact edit.sound _ htook.invocation
    · exact htook.held other hmem

/-! ### Passes -/

section Execute

variable (registry : U → Registry)
  {act : S → StageView → StateM (PoolWorld S U) (StageAnswer × StageEdit)} {name : LeaseName}
  {rest : List LeaseName}

/-- What a pass keeps: the account, that it is the innermost pass that runs, that it runs on the same
instance, and that all attributes it works on are in sound stores. -/
structure InPass (name : LeaseName) (rest : List LeaseName) (pass : Pass) (w : PoolWorld S U) :
    Prop where
  accounted : w.Accounted
  running : w.running = name :: rest
  id : pass.inst.id = name.id
  connection : pass.connection.Sound
  invocation : pass.inst.invocation.Sound

/-- A stage that keeps the account keeps it during a pass. -/
theorem InPass.process {pass : Pass} (hact : ∀ tag view, Keeps (act tag view))
    (h : w.InPass name rest pass) (tag : S) (chainName : String) :
    InPass name rest
      (pass.update ((host registry act).process tag (pass.view chainName) w).1.2)
      ((host registry act).process tag (pass.view chainName) w).2 := by
  have hcalled : (w.note .called).Accounted :=
    h.accounted.note_quiet rfl h.accounted.now (fun _ ↦ rfl) nofun h.accounted.sound
  obtain ⟨haccounted, hrunning⟩ := hact tag (pass.view chainName) _ hcalled
  have hview := (act tag (pass.view chainName) (w.note .called)).1.2.sound (pass.view chainName)
    ⟨h.connection, h.invocation⟩
  exact ⟨haccounted, hrunning.trans h.running, h.id, hview.connection, hview.invocation⟩

/-- A whole pass keeps what its stages keep. -/
theorem InPass.run {pass : Pass} (hact : ∀ tag view, Keeps (act tag view))
    (h : w.InPass name rest pass) (chain : Chain S) :
    InPass name rest (chain.run (host registry act) pass w).1.2
      (chain.run (host registry act) pass w).2 :=
  chain.run_preserves (InPass name rest) (fun _ _ stage h ↦ h.process registry hact stage.tag chain.name)
    (fun _ _ h ↦ ⟨h.accounted, h.running, h.id, h.connection, h.invocation⟩)
    (fun _ _ h ↦ ⟨h.accounted, h.running, h.id, h.connection, h.invocation⟩) h

/-- A lease that comes back suspended is held again. -/
theorem InPass.suspend {pass : Pass} (h : w.InPass name rest pass) :
    let reply : ChainReply := .ok (.ok (.suspended ⟨name.pool, pass.inst⟩))
    ((w.finish reply).note (.executed name reply)).Accounted ∧ (w.finish reply).running = rest := by
  intro reply
  have hname : Lease.name ⟨name.pool, pass.inst⟩ = name := by rw [Lease.name, h.id]
  have hout : w.out.Perm (w.finish reply).out := by
    show (w.held.map Lease.name ++ w.running).Perm
      (Lease.name ⟨name.pool, pass.inst⟩ :: (w.held.map Lease.name ++ w.running.tail))
    rw [hname, h.running]
    exact List.perm_middle
  have hnow : (w.finish reply).Balances (w.finish reply).out := h.accounted.now.of_perm hout
  have hmem : name.id ∈ LeaseName.numbersOf name.pool (w.finish reply).out := by
    show name.id ∈ LeaseName.numbersOf name.pool
      (⟨name.pool, pass.inst.id⟩ :: (w.held.map Lease.name ++ w.running.tail))
    rw [LeaseName.numbersOf_cons_self, h.id]
    exact List.mem_cons_self
  refine ⟨h.accounted.note rfl ⟨hnow.balanced_note fun _ ↦ rfl, ?_, ?_⟩ ?_, ?_⟩
  · intro other lease heq
    obtain ⟨rfl, hlease⟩ := PoolEvent.executed.inj heq
    obtain rfl := ChainOutcome.suspended.inj (Except.ok.inj (Except.ok.inj hlease))
    exact ⟨hname, hmem, (hnow name.pool).not_mem_idle hmem⟩
  · intro other _ heq hne
    obtain ⟨-, rfl⟩ := PoolEvent.executed.inj heq
    exact absurd rfl (hne _)
  · intro lease hlease
    rcases List.mem_cons.1 hlease with rfl | hlease
    · exact h.invocation
    · exact h.accounted.sound lease hlease
  · show w.running.tail = rest
    rw [h.running, List.tail_cons]

/-- A pass that is not suspended has nothing to hold afterwards. -/
theorem finish_of_ne {reply : ChainReply} (h : ∀ lease, reply ≠ .ok (.ok (.suspended lease)))
    (w : PoolWorld S U) : w.finish reply = { w with running := w.running.tail } := by
  unfold finish
  split
  · next lease => exact absurd rfl (h lease)
  · rfl

/-- The instance of a pass that ended otherwise is returned. -/
theorem InPass.giveBack {pass : Pass} (h : w.InPass name rest pass) {reply : ChainReply}
    (hreply : ∀ lease, reply ≠ .ok (.ok (.suspended lease))) :
    let returned := ((host registry act).release ⟨name.pool, pass.inst⟩ w).2
    ((returned.finish reply).note (.executed name reply)).Accounted ∧
      (returned.finish reply).running = rest := by
  intro returned
  rw [finish_of_ne hreply]
  have hout : w.out.Perm (Lease.name ⟨name.pool, pass.inst⟩ :: (w.held.map Lease.name ++ rest)) := by
    rw [Lease.name, h.id, out, h.running]
    exact List.perm_middle
  have htail : w.running.tail = rest := by rw [h.running, List.tail_cons]
  -- The instance is in its pool before the pass leaves `running`, so the agreement is on the tail.
  have hbefore := h.accounted.now.of_perm hout
  have hnow : Balances { returned with running := returned.running.tail }
      (out { returned with running := returned.running.tail }) := by
    show returned.Balances (w.held.map Lease.name ++ w.running.tail)
    rw [htail]
    exact hbefore.release h.invocation
  have hsettled : name.id ∈ (returned.pools name.pool).idle.map ChainInstance.id ∧
      name.id ∉ LeaseName.numbersOf name.pool (w.held.map Lease.name ++ w.running.tail) := by
    have hbalanced := hbefore name.pool
    rw [Lease.name, LeaseName.numbersOf_cons_self] at hbalanced
    rw [htail, ← h.id]
    show pass.inst.id ∈ (if name.pool = name.pool then (w.pools name.pool).release pass.inst
      else w.pools name.pool).idle.map ChainInstance.id ∧ _
    rw [if_pos rfl]
    exact hbalanced.mem_idle_release
  refine ⟨h.accounted.note rfl ⟨hnow.balanced_note fun _ ↦ rfl, ?_, ?_⟩
    h.accounted.sound, htail⟩
  · intro other lease heq
    obtain ⟨-, hlease⟩ := PoolEvent.executed.inj heq
    exact absurd hlease (hreply lease)
  · intro other _ heq _
    obtain ⟨rfl, -⟩ := PoolEvent.executed.inj heq
    exact hsettled

/-- The lease on which a pass begins is the innermost one that runs. -/
theorem Took.inPass {lease : Lease} {taken : PoolWorld S U} (htook : w.Took lease taken)
    (h : w.Accounted) (event : Event) {connection : AttributeStore}
    (hconnection : connection.Sound) :
    InPass lease.name taken.running ⟨event, connection, lease.inst⟩
      { taken with running := lease.name :: taken.running } where
  accounted :=
    { moments := by
        show ∀ later moment earlier, taken.history = later ++ moment :: earlier → _
        rw [htook.history]
        exact h.moments
      now := htook.balances.of_perm List.perm_middle.symm
      sound := htook.held }
  running := rfl
  id := rfl
  connection := hconnection
  invocation := htook.invocation

/-- An execution keeps the account, whatever its stages do, as long as they keep it. -/
theorem keeps_execute (hact : ∀ tag view, Keeps (act tag view)) (event : Event)
    {connection : AttributeStore} (hconnection : connection.Sound) :
    Keeps (execute registry act name event connection) := by
  intro w h
  unfold PoolWorld.execute
  rcases htake : w.take name with - | ⟨lease, taken⟩
  · exact ⟨h, rfl⟩
  · obtain ⟨rfl, htook⟩ := h.take htake
    have hbegun := htook.inPass h event hconnection
    rw [← htook.running]
    dsimp only
    -- What the world was before the pass no longer matters.
    generalize { taken with running := lease.name :: taken.running } = begun at hbegun ⊢
    rcases hrun : (((host registry act).pool lease.pool).read begun).chain.run (host registry act)
      ⟨event, connection, lease.inst⟩ begun with ⟨⟨outcome, pass⟩, after⟩
    have hended := hbegun.run registry hact (((host registry act).pool lease.pool).read begun).chain
    rw [hrun] at hended
    by_cases hsuspended : outcome = .ok .suspended
    · subst hsuspended
      rw [ChainHost.execute_of_suspended hrun]
      exact hended.suspend
    · rw [ChainHost.execute_of_ended hsuspended hrun]
      refine hended.giveBack registry fun next hnext ↦ ?_
      exact hsuspended (Lease.told_eq_suspended_iff.1 hnext).1

end Execute

end PoolWorld

/-! ### Programs -/

/-- A program keeps the account, by induction over the program. -/
theorem Program.keeps_run {S U : Type} (registry : U → Registry) (program : Program S U) :
    PoolWorld.Keeps (program.run registry) := by
  induction program with
  | done answer edit => exact fun w h ↦ ⟨h, rfl⟩
  | user change next ih =>
    intro w h
    have hchanged : PoolWorld.Accounted { w with user := change w.user } :=
      ⟨h.moments, h.now, h.sound⟩
    exact ih _ _ hchanged
  | acquire pool next ih =>
    intro w h
    obtain ⟨haccounted, hrunning⟩ := PoolWorld.keeps_acquire registry pool w h
    obtain ⟨hlast, hlastRunning⟩ := ih _ _ haccounted
    exact ⟨hlast, hlastRunning.trans hrunning⟩
  | drop name next ih =>
    intro w h
    obtain ⟨haccounted, hrunning⟩ := PoolWorld.keeps_drop registry name w h
    obtain ⟨hlast, hlastRunning⟩ := ih _ _ haccounted
    exact ⟨hlast, hlastRunning.trans hrunning⟩
  | alter name edit next ih =>
    intro w h
    obtain ⟨haccounted, hrunning⟩ := PoolWorld.keeps_alter name edit w h
    obtain ⟨hlast, hlastRunning⟩ := ih _ _ haccounted
    exact ⟨hlast, hlastRunning.trans hrunning⟩
  | execute name event connection stages next ihStages ihNext =>
    intro w h
    obtain ⟨haccounted, hrunning⟩ :=
      PoolWorld.keeps_execute registry ihStages event connection.2 w h
    obtain ⟨hlast, hlastRunning⟩ := ihNext _ _ haccounted
    exact ⟨hlast, hlastRunning.trans hrunning⟩

/-- **Every instance is in one place.** Whatever a program does with new pools, each of its moments is
settled, and so are the pools as it leaves them. -/
theorem Program.accounted_run {S U : Type} (registry : U → Registry) (chains : PoolRef → Chain S)
    (user : U) (program : Program S U) :
    (program.run registry (.fresh chains user)).2.Accounted :=
  (program.keeps_run registry _ (PoolWorld.accounted_fresh chains user)).1

end Conduit
