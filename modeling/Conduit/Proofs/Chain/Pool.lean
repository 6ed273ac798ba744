import Conduit.Chain.Pool
import Conduit.Proofs.Attribute.Sound

/-!
# Pools of instances

Handing out an instance either takes the one returned last or makes a new one (`acquire_cases`).
Everything else that is known of a pool follows from that and from what happens to an instance that
is returned.

`Reached` is all that is needed of the pool by whoever uses one lease: its instances stand at the
first stage. `Balanced` is the account of a pool whose instances are all known to be either unused or
with some holder. It rests on the instances being returned once each, which is what holding them
means, and on their attributes being returned in a sound store.
-/

namespace Conduit

/-- An instance stands at the first stage, which has not asked for a rerun. -/
def ChainInstance.AtStart (inst : ChainInstance) : Prop :=
  inst.cursor = 0 ∧ inst.consecutiveReruns = 0

/-- An instance is as a new one, but for the slots that its store was given. -/
def ChainInstance.Rested (inst : ChainInstance) : Prop :=
  inst.AtStart ∧ inst.invocation.Blank

namespace ChainPool

variable {S : Type} {chain : Chain S} {pool : ChainPool S} {out : List Nat}
  {acquires peak : Nat}

/-- Handing out an instance takes it from the unused ones, or makes it. -/
theorem acquire_cases (registry : Registry) (pool : ChainPool S) :
    (∃ inst idle, pool.idle = inst :: idle ∧ ChainPool.acquire registry pool =
      (inst, { pool with idle, reused := pool.reused + 1 })) ∨
    (pool.idle = [] ∧ ChainPool.acquire registry pool =
      ({ id := pool.created + 1, invocation := .new registry },
        { pool with created := pool.created + 1 })) := by
  obtain ⟨chain, idle, created, reused, released⟩ := pool
  rcases idle with - | ⟨inst, idle⟩
  · exact Or.inr ⟨rfl, rfl⟩
  · exact Or.inl ⟨inst, idle, rfl, rfl⟩

/-! ### Pools that came to be -/

/-- The pools of a chain that come to be by handing out instances and taking some back. -/
inductive Reached (chain : Chain S) : ChainPool S → Prop where
  /-- The pool is new. -/
  | new : Reached chain { chain }
  /-- An instance was handed out. -/
  | acquire {pool : ChainPool S} (registry : Registry) (h : Reached chain pool) :
      Reached chain (ChainPool.acquire registry pool).2
  /-- An instance was taken back, whatever had become of it. -/
  | release {pool : ChainPool S} (inst : ChainInstance) (h : Reached chain pool) :
      Reached chain (pool.release inst)

theorem Reached.chain_eq (h : Reached chain pool) : pool.chain = chain := by
  induction h with
  | new => rfl
  | acquire registry h ih =>
    rcases acquire_cases registry _ with ⟨inst, idle, -, heq⟩ | ⟨-, heq⟩
    · rw [heq]
      exact ih
    · rw [heq]
      exact ih
  | release inst h ih => exact ih

/-- Every unused instance is at its start. -/
theorem Reached.atStart (h : Reached chain pool) : ∀ inst ∈ pool.idle, inst.AtStart := by
  induction h with
  | new => simp
  | acquire registry h ih =>
    rcases acquire_cases registry _ with ⟨inst, idle, hidle, heq⟩ | ⟨-, heq⟩
    · rw [heq]
      exact fun other hmem ↦ ih other (by rw [hidle]; exact List.mem_cons_of_mem _ hmem)
    · rw [heq]
      exact ih
  | release inst h ih =>
    intro other hmem
    rcases List.mem_cons.1 hmem with rfl | hmem
    · exact ⟨rfl, rfl⟩
    · exact ih other hmem

/-- What is handed out stands at the first stage. -/
theorem Reached.atStart_acquire (h : Reached chain pool) (registry : Registry) :
    (ChainPool.acquire registry pool).1.AtStart := by
  rcases acquire_cases registry pool with ⟨inst, idle, hidle, heq⟩ | ⟨-, heq⟩
  · rw [heq]
    exact h.atStart inst (by rw [hidle]; exact List.mem_cons_self)
  · rw [heq]
    exact ⟨rfl, rfl⟩

/-! ### Tidy pools -/

/-- A pool is the one of a chain, and nothing is left in its unused instances. -/
structure Tidy (chain : Chain S) (pool : ChainPool S) : Prop where
  chain_eq : pool.chain = chain
  rested : ∀ inst ∈ pool.idle, inst.Rested

theorem tidy_new (chain : Chain S) : Tidy chain { chain } :=
  ⟨rfl, by simp⟩

/-- What is handed out has a sound store, and the rest of the pool stays as it was. -/
theorem Tidy.acquire (h : Tidy chain pool) (registry : Registry) :
    Tidy chain (ChainPool.acquire registry pool).2 ∧
      (ChainPool.acquire registry pool).1.invocation.Sound := by
  rcases acquire_cases registry pool with ⟨inst, idle, hidle, heq⟩ | ⟨-, heq⟩
  · rw [heq]
    refine ⟨⟨h.chain_eq, fun other hmem ↦ h.rested other ?_⟩, (h.rested inst ?_).2.sound⟩
    · rw [hidle]
      exact List.mem_cons_of_mem _ hmem
    · rw [hidle]
      exact List.mem_cons_self
  · rw [heq]
    exact ⟨⟨h.chain_eq, h.rested⟩, (AttributeStore.blank_new registry).sound⟩

/-- Whatever has become of an instance, nothing of it is left in the pool. -/
theorem Tidy.release {inst : ChainInstance} (h : Tidy chain pool) (hsound : inst.invocation.Sound) :
    Tidy chain (pool.release inst) := by
  refine ⟨h.chain_eq, fun other hmem ↦ ?_⟩
  rcases List.mem_cons.1 hmem with rfl | hmem
  · exact ⟨⟨rfl, rfl⟩, hsound.blank_clear⟩
  · exact h.rested other hmem

/-! ### Balanced pools -/

/-- A pool and the numbers of its instances that are out agree, after that many requests for an
instance, with at most that many instances out at once. -/
structure Balanced (pool : ChainPool S) (out : List Nat) (acquires peak : Nat) : Prop where
  /-- The instances that were made are unused or out, and in one place each. -/
  ids : (pool.idle.map ChainInstance.id ++ out).Perm (List.range' 1 pool.created)
  /-- Every request was met by a new instance or by one that was used before. -/
  acquired : pool.created + pool.reused = acquires
  /-- Every return was followed by another use, or the instance is still unused. -/
  released : pool.released = pool.reused + pool.idle.length
  /-- No more instances were made than were needed at once. -/
  made : pool.created = peak
  /-- Nothing is left in an unused instance. -/
  rested : ∀ inst ∈ pool.idle, inst.Rested

theorem balanced_new : Balanced { chain } [] 0 0 where
  ids := List.Perm.refl _
  acquired := rfl
  released := rfl
  made := rfl
  rested := by simp

theorem Balanced.of_perm {out' : List Nat} (h : Balanced pool out acquires peak)
    (hperm : out.Perm out') : Balanced pool out' acquires peak :=
  { h with ids := (hperm.append_left _).symm.trans h.ids }

/-- No instance is in two places. -/
theorem Balanced.nodup (h : Balanced pool out acquires peak) :
    (pool.idle.map ChainInstance.id ++ out).Nodup :=
  h.ids.nodup_iff.2 List.nodup_range'

theorem Balanced.not_mem_idle (h : Balanced pool out acquires peak) {id : Nat} (hout : id ∈ out) :
    id ∉ pool.idle.map ChainInstance.id := by
  intro hidle
  exact (List.nodup_append.1 h.nodup).2.2 id hidle id hout rfl

/-- Every instance is held or unused. -/
theorem Balanced.length_add (h : Balanced pool out acquires peak) :
    pool.idle.length + out.length = pool.created := by
  simpa using h.ids.length_eq

/-- No more instances are held than were at any time. -/
theorem Balanced.length_le (h : Balanced pool out acquires peak) : out.length ≤ peak := by
  have hlength := h.length_add
  have hmade := h.made
  omega

/-- What is handed out has a sound store. -/
theorem Balanced.sound_acquire (h : Balanced pool out acquires peak) (registry : Registry) :
    (ChainPool.acquire registry pool).1.invocation.Sound := by
  rcases acquire_cases registry pool with ⟨inst, idle, hidle, heq⟩ | ⟨-, heq⟩
  · rw [heq]
    exact (h.rested inst (by rw [hidle]; exact List.mem_cons_self)).2.sound
  · rw [heq]
    exact (AttributeStore.blank_new registry).sound

/-- One instance more is out once it was handed out. -/
theorem Balanced.acquire (h : Balanced pool out acquires peak) (registry : Registry) :
    Balanced (ChainPool.acquire registry pool).2
      ((ChainPool.acquire registry pool).1.id :: out) (acquires + 1) (max (out.length + 1) peak) := by
  have hlength := h.length_add
  have hacquired := h.acquired
  have hreleased := h.released
  have hmade := h.made
  rcases acquire_cases registry pool with ⟨inst, idle, hidle, heq⟩ | ⟨hidle, heq⟩
  · -- An unused instance moves out; one was unused, so no more are out than ever before.
    have hids := h.ids
    rw [hidle] at hids hlength hreleased
    rw [List.length_cons] at hlength hreleased
    rw [heq]
    refine ⟨List.perm_middle.trans hids, ?_, ?_, ?_, fun other hmem ↦ h.rested other ?_⟩
    · show pool.created + (pool.reused + 1) = acquires + 1
      omega
    · show pool.released = pool.reused + 1 + idle.length
      omega
    · show pool.created = max (out.length + 1) peak
      omega
    · rw [hidle]
      exact List.mem_cons_of_mem _ hmem
  · -- All instances are out, so the new one makes the number of those out a new maximum.
    have hids := h.ids
    rw [hidle] at hids hlength
    rw [List.length_nil] at hlength
    rw [heq]
    refine ⟨?_, ?_, hreleased, ?_, h.rested⟩
    · show (pool.idle.map ChainInstance.id ++ (pool.created + 1) :: out).Perm
        (List.range' 1 (pool.created + 1))
      rw [hidle, List.range'_1_concat, Nat.add_comm 1]
      exact (List.perm_append_singleton _ _).symm.trans (hids.append_right _)
    · show pool.created + 1 + pool.reused = acquires + 1
      omega
    · show pool.created + 1 = max (out.length + 1) peak
      omega

/-- One instance less is out once it was returned. -/
theorem Balanced.release {inst : ChainInstance} (h : Balanced pool (inst.id :: out) acquires peak)
    (hsound : inst.invocation.Sound) : Balanced (pool.release inst) out acquires peak where
  ids := List.perm_middle.symm.trans h.ids
  acquired := h.acquired
  released := by
    show pool.released + 1 = pool.reused + (pool.idle.length + 1)
    rw [h.released, Nat.add_assoc]
  made := h.made
  rested other hmem := by
    rcases List.mem_cons.1 hmem with rfl | hmem
    · exact ⟨⟨rfl, rfl⟩, hsound.blank_clear⟩
    · exact h.rested other hmem

/-- What was returned is unused. -/
theorem Balanced.mem_idle_release {inst : ChainInstance}
    (h : Balanced pool (inst.id :: out) acquires peak) :
    inst.id ∈ (pool.release inst).idle.map ChainInstance.id ∧ inst.id ∉ out :=
  ⟨List.mem_cons_self, (List.nodup_cons.1 (List.nodup_append.1 h.nodup).2.1).1⟩

end ChainPool

end Conduit
