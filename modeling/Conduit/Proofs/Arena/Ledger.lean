import Conduit.Proofs.Arena.Circulation
import Mathlib.Algebra.BigOperators.Group.List.Basic
import Mathlib.Algebra.GroupWithZero.Nat

/-!
# The books of an arena

An arena counts what it does, and works out from its free lists what it keeps. Its users can keep books
of their own: they see which buffers were accepted, which of those came back to them, and when the
arena was told to drop what it had (`ArenaOutcome`, `ArenaLedger`).

Main statement: the two agree, whatever the limits and whatever the users do, and a buffer that is
returned as it was handed out is the next to be handed out (`Circulation.recorded_run`). That the books
agree is kept by every operation (`Circulation.Books`). That a buffer is accepted again rests on what the
free lists hold: its capacity is rounded down to the class that it was taken from
(`Arena.Pooled.accepting?_take`).
-/

namespace Conduit

/-- What users see of an operation. -/
inductive ArenaOutcome where
  /-- A request was not served with a buffer that there was before. -/
  | fresh
  /-- A request was served with a buffer that there was before. -/
  | reused (number : Nat)
  /-- A buffer was returned, and the arena kept it. -/
  | accepted (number capacity : Nat)
  /-- A buffer was returned, and the arena did not keep it. -/
  | refused
  /-- The arena dropped what it kept. -/
  | shrunk
  /-- The arena had nothing to do with it. -/
  | elsewhere
  deriving DecidableEq, Repr

namespace ArenaOutcome

/-- A buffer was asked for. -/
def isRequest : ArenaOutcome → Bool
  | fresh | reused _ => true
  | _ => false

/-- A buffer was handed out again. -/
def isReuse : ArenaOutcome → Bool
  | reused _ => true
  | _ => false

/-- A buffer was returned. -/
def isReturn : ArenaOutcome → Bool
  | accepted .. | refused => true
  | _ => false

/-- A buffer was returned and kept. -/
def isAcceptance : ArenaOutcome → Bool
  | accepted .. => true
  | _ => false

/-- Which counters go up. -/
def count (counters : ArenaStats) : ArenaOutcome → ArenaStats
  | fresh => { counters with freshAllocations := counters.freshAllocations + 1 }
  | reused _ => { counters with reuses := counters.reuses + 1 }
  | accepted .. => { counters with released := counters.released + 1 }
  | refused => { counters with discarded := counters.discarded + 1 }
  | shrunk | elsewhere => counters

/-- What becomes of the buffers that are kept, each with its capacity. -/
def Moves (before after : List (Nat × Nat)) : ArenaOutcome → Prop
  | reused number => ∃ capacity, before.Perm ((number, capacity) :: after)
  | accepted number capacity => after.Perm ((number, capacity) :: before)
  | shrunk => after = []
  | fresh | refused | elsewhere => after = before

end ArenaOutcome

/-- The books that users keep. -/
structure ArenaLedger where
  /-- The buffers that were accepted and neither reused nor dropped since, with the capacities they
  were returned with. -/
  standing : List (Nat × Nat) := []
  /-- How many buffers were dropped. -/
  dropped : Nat := 0

namespace ArenaLedger

/-- Enters what came of an operation. -/
def enter (ledger : ArenaLedger) : ArenaOutcome → ArenaLedger
  | .accepted number capacity => { ledger with standing := (number, capacity) :: ledger.standing }
  | .reused number => { ledger with standing := ledger.standing.filter (·.1 ≠ number) }
  | .shrunk => ⟨[], ledger.dropped + ledger.standing.length⟩
  | .fresh | .refused | .elsewhere => ledger

/-- The books after what came of operations one after another. -/
def ofOutcomes (outcomes : List ArenaOutcome) : ArenaLedger :=
  outcomes.foldl enter {}

theorem ofOutcomes_concat (outcomes : List ArenaOutcome) (outcome : ArenaOutcome) :
    ofOutcomes (outcomes ++ [outcome]) = (ofOutcomes outcomes).enter outcome :=
  List.foldl_concat ..

end ArenaLedger

section Moves

variable {outcome : ArenaOutcome} {before after : List (Nat × Nat)} {ledger : ArenaLedger}

/-- Taking a buffer off the books takes off that buffer only. -/
theorem filter_perm_of_perm {number capacity : Nat} (h : before.Perm ((number, capacity) :: after))
    (hnodup : (before.map Prod.fst).Nodup) : (before.filter (·.1 ≠ number)).Perm after := by
  have hfirst : number ∉ after.map Prod.fst :=
    (List.nodup_cons.1 ((h.map Prod.fst).nodup_iff.1 hnodup)).1
  refine (h.filter _).trans ?_
  rw [List.filter_cons_of_neg (by simp), List.filter_eq_self.2 fun entry hentry ↦ ?_]
  exact decide_eq_true fun heq ↦ hfirst (heq ▸ List.mem_map_of_mem hentry)

/-- The books follow the buffers. -/
theorem ArenaOutcome.Moves.standing_enter (h : outcome.Moves before after)
    (hstanding : ledger.standing.Perm before) (hnodup : (before.map Prod.fst).Nodup) :
    (ledger.enter outcome).standing.Perm after := by
  cases outcome with
  | reused number =>
    obtain ⟨capacity, hperm⟩ := h
    exact filter_perm_of_perm (hstanding.trans hperm) ((hstanding.map _).nodup_iff.2 hnodup)
  | accepted number capacity => exact (hstanding.cons _).trans h.symm
  | shrunk => exact h ▸ .nil
  | fresh | refused | elsewhere => exact h ▸ hstanding

/-- Buffers that come or go are counted. -/
theorem ArenaOutcome.Moves.balance_enter (h : outcome.Moves before after)
    (hlength : ledger.standing.length = before.length) (counters : ArenaStats) :
    after.length + (outcome.count counters).reuses + (ledger.enter outcome).dropped +
        counters.released =
      before.length + counters.reuses + ledger.dropped + (outcome.count counters).released := by
  cases outcome with
  | reused number =>
    obtain ⟨capacity, hperm⟩ := h
    have hone := hperm.length_eq
    show after.length + (counters.reuses + 1) + ledger.dropped + _ = _ + _ + _ + counters.released
    simp only [List.length_cons] at hone
    omega
  | accepted number capacity =>
    have hone := List.Perm.length_eq h
    show after.length + counters.reuses + ledger.dropped + _ = _ + _ + _ + (counters.released + 1)
    simp only [List.length_cons] at hone
    omega
  | shrunk =>
    obtain rfl : after = [] := h
    show 0 + counters.reuses + (ledger.dropped + ledger.standing.length) + _ = _
    rw [hlength, Nat.zero_add]
    show _ = _ + _ + _ + counters.released
    omega
  | fresh | refused | elsewhere =>
    obtain rfl : after = before := h
    rfl

end Moves

/-- The arena is asked for a buffer. -/
def CirculationOp.isRequest : CirculationOp → Bool
  | .take _ | .takeFor _ => true
  | _ => false

theorem Scratch.clear_of_empty {buffer : Scratch} (h : buffer.bytes = []) : buffer.clear = buffer := by
  rw [Scratch.clear, ← h]

namespace Arena

variable {limits : ArenaLimits} {arena : Arena} {class_ : SizeClass} {buffer : Scratch}

/-- The bytes that an arena keeps are the capacities on its free lists. -/
theorem cachedBytes_eq_sum (arena : Arena) :
    arena.cachedBytes = (arena.lists.flatten.map Scratch.capacity).sum := by
  rw [List.sum_eq_foldr, List.foldr_map]
  rfl

theorem stats_shrink (arena : Arena) :
    (Arena.shrink arena).2.stats = { arena.stats with cachedBuffers := 0, cachedBytes := 0 } := by
  have hlists : (Arena.shrink arena).2.lists.flatten = [] := flatten_map_nil arena.lists
  rw [stats, cachedBytes, hlists]
  rfl

/-- What was handed out from a pooled class fits the free list that it was taken from, which has room. -/
theorem Pooled.accepting?_take (h : arena.Pooled limits) (hroom : 1 ≤ limits.maxBuffersPerClass)
    (hmax : arena.serving class_ ≤ arena.maxShift) (hok : (Arena.take class_ arena).1 = .ok buffer) :
    (Arena.take class_ arena).2.accepting? buffer = some (arena.serving class_) ∧
      buffer.bytes = [] := by
  have hmin := minShift_le_serving class_ arena
  rcases take_cases class_ arena with ⟨taken, rest, -, hlist, heq⟩ | ⟨-, hlist, heq⟩ | ⟨hover, -⟩
  · -- The list had no buffers but those of its class, and has one less than it may have.
    have hspare := h.spare _ hmin hmax taken (hlist ▸ List.mem_cons_self)
    have hlength := h.length_le _ hmin hmax
    rw [hlist] at hlength
    rw [heq] at hok ⊢
    obtain rfl : taken.clear = buffer := Except.ok.inj hok
    have hslot : arena.serving class_ - arena.minShift < arena.lists.length := by
      rw [h.length_eq]
      omega
    refine ⟨accepting?_eq_some_iff.2 ⟨⟨hmin, hmax⟩, ⟨hspare.le_capacity, hspare.capacity_lt⟩, ?_⟩, rfl⟩
    show ((arena.setList _ rest).list _).length < arena.limits.maxBuffersPerClass
    rw [list_setList hmin hslot rest hmin, if_pos rfl, h.limits_eq]
    exact hlength
  · -- The list is empty, and the capacity is the power of two itself.
    have hshift : arena.serving class_ ≤ SizeClass.largest.shift :=
      Nat.le_trans hmax (h.maxShift_eq ▸ SizeClass.shift_forCapacity_le _)
    rw [heq, SizeClass.ofShift_of_le hshift] at hok
    rw [heq]
    obtain rfl := Scratch.eq_of_allocate hok
    refine ⟨accepting?_eq_some_iff.2 ⟨⟨hmin, hmax⟩, ⟨Nat.le_refl _, ?_⟩, ?_⟩, rfl⟩
    · exact Nat.pow_lt_pow_right Nat.one_lt_two (Nat.lt_succ_self _)
    · show (arena.list _).length < arena.limits.maxBuffersPerClass
      rw [hlist, h.limits_eq]
      exact hroom
  · exact absurd hmax (Nat.not_le.2 hover)

end Arena

namespace Circulation

/-! ### What users see -/

/-- What users see of a request. They know the buffers that there were. -/
def requested (s : Circulation) (class_ : SizeClass) : ArenaOutcome :=
  match (Arena.take class_ s.arena).1, (s.take class_).held with
  | .ok _, number :: _ => if number < s.made then .reused number else .fresh
  | _, _ => .fresh

/-- What users see of an operation. -/
def outcome (s : Circulation) : CirculationOp → ArenaOutcome
  | .take class_ => s.requested class_
  | .takeFor capacity => s.requested (.forCapacity capacity)
  | .release number =>
    if number ∈ s.held then
      if (Arena.release (s.buffers number) s.arena).1 then
        .accepted number (s.buffers number).capacity
      else .refused
    else .elsewhere
  | .shrink => .shrunk
  | .bring _ | .change .. | .drop _ => .elsewhere

/-- What users see of operations one after another. -/
def outcomes (s : Circulation) : List CirculationOp → List ArenaOutcome
  | [] => []
  | op :: ops => s.outcome op :: (s.step op).outcomes ops

/-- The number of a buffer with its capacity. -/
def entry (buffers : Nat → Scratch) (number : Nat) : Nat × Nat :=
  (number, (buffers number).capacity)

/-- The buffers on the free lists. -/
def entries (s : Circulation) : List (Nat × Nat) :=
  s.kept.flatten.map (entry s.buffers)

section Requests

variable {limits : ArenaLimits} {s : Circulation} {shift number : Nat} {class_ : SizeClass}

/-- A request that is served is a reuse when its buffer was there before. -/
theorem requested_of_ok {buffer : Scratch} {rest : List Nat}
    (h : (Arena.take class_ s.arena).1 = .ok buffer) (hheld : (s.take class_).held = number :: rest) :
    s.requested class_ = if number < s.made then .reused number else .fresh := by
  simp only [requested, h, hheld]

theorem isRequest_requested (s : Circulation) (class_ : SizeClass) :
    (s.requested class_).isRequest = true := by
  unfold requested
  split
  · split <;> rfl
  · rfl

/-- A return is an acceptance when the arena takes the buffer. -/
theorem outcome_release (hheld : number ∈ s.held) :
    s.outcome (.release number) =
      if (Arena.release (s.buffers number) s.arena).1 then
        .accepted number (s.buffers number).capacity
      else .refused :=
  if_pos hheld

theorem isRequest_outcome (s : Circulation) (op : CirculationOp) :
    (s.outcome op).isRequest = op.isRequest := by
  cases op with
  | take class_ => exact isRequest_requested s class_
  | takeFor capacity => exact isRequest_requested s _
  | release number =>
    show ArenaOutcome.isRequest (if _ then if _ then _ else _ else _) = false
    split
    · split <;> rfl
    · rfl
  | shrink | bring _ | change _ _ | drop _ => rfl

theorem countP_isRequest (s : Circulation) (ops : List CirculationOp) :
    (s.outcomes ops).countP ArenaOutcome.isRequest = ops.countP CirculationOp.isRequest := by
  induction ops generalizing s with
  | nil => rfl
  | cons op ops ih =>
    show (s.outcome op :: (s.step op).outcomes ops).countP ArenaOutcome.isRequest = _
    rw [List.countP_cons, List.countP_cons, ih, isRequest_outcome]

/-- The number in front of the list of a class is the one that a request for the class is served with. -/
theorem Sound.reuses (h : s.Sound limits) {rest : List Nat}
    (hnumbers : s.numbers (s.arena.serving class_) = number :: rest) :
    s.requested class_ = .reused number ∧
      (Arena.take class_ s.arena).1 = .ok (s.buffers number).clear := by
  rcases h.take_cases class_ with ⟨first, others, hmax, hcons, htake, heq⟩ | ⟨hnil, -⟩
  · obtain ⟨rfl, rfl⟩ := List.cons.inj (hcons.symm.trans hnumbers)
    have hok := congrArg Prod.fst htake
    have hmem := h.mem_flatten hmax (hcons ▸ List.mem_cons_self)
    refine ⟨?_, hok⟩
    rw [requested_of_ok hok (congrArg held heq)]
    exact if_pos (h.lt_made first (List.mem_append_left _ hmem))
  · exact absurd (hnumbers.symm.trans hnil) (List.cons_ne_nil _ _)

/-- Where the list of the class has no number, none is reused. -/
theorem Sound.requested_fresh (h : s.Sound limits)
    (hnumbers : s.numbers (s.arena.serving class_) = []) : s.requested class_ = .fresh := by
  rcases h.take_cases class_ with ⟨_, _, -, hcons, -⟩ | ⟨-, ⟨buffer, htake, heq⟩ | ⟨panic, htake, -⟩⟩
  · exact absurd (hcons.symm.trans hnumbers) (List.cons_ne_nil _ _)
  · rw [requested_of_ok (congrArg Prod.fst htake) (congrArg held heq)]
    exact if_neg (Nat.lt_irrefl _)
  · simp only [requested, htake]

end Requests

/-! ### What users see is what happens -/

/-- What becomes of the counters and the free lists is what users see. -/
structure Enters (outcome : ArenaOutcome) (s s' : Circulation) : Prop where
  counters : s'.arena.counters = outcome.count s.arena.counters
  entries : outcome.Moves s.entries s'.entries

section Enters

variable {limits : ArenaLimits} {s : Circulation} {shift number : Nat} {class_ : SizeClass}

/-- The buffers on the free lists are entered under their numbers. -/
theorem map_fst_entries (s : Circulation) : s.entries.map Prod.fst = s.kept.flatten := by
  rw [entries, List.map_map]
  exact List.map_id _

/-- A buffer keeps its capacity when it is cleared. -/
theorem entry_clear (buffers : Nat → Scratch) (number : Nat) :
    entry (Function.update buffers number (buffers number).clear) = entry buffers := by
  funext other
  rcases eq_or_ne other number with rfl | hne
  · rw [entry, Function.update_self]
    rfl
  · rw [entry, Function.update_of_ne hne]
    rfl

/-- A buffer that lies on no free list may change without changing what is entered. -/
theorem map_entry_update (h : number ∉ s.kept.flatten) (buffer : Scratch) :
    s.kept.flatten.map (entry (Function.update s.buffers number buffer)) = s.entries := by
  refine List.map_congr_left fun other hother ↦ ?_
  rw [entry, Function.update_of_ne (by rintro rfl; exact h hother)]
  rfl

/-- **A request is entered as users see it**. -/
theorem Sound.enters_take (h : s.Sound limits) (class_ : SizeClass) :
    Enters (s.requested class_) s (s.take class_) := by
  rcases h.take_cases class_ with
    ⟨number, rest, hmax, hnumbers, -, heq⟩ | ⟨hnumbers, ⟨buffer, -, heq⟩ | ⟨panic, -, heq⟩⟩
  · rw [(h.reuses hnumbers).1, heq]
    refine ⟨rfl, (s.buffers number).capacity, ?_⟩
    show (s.kept.flatten.map _).Perm
      (entry s.buffers number ::
        (s.setNumbers _ rest).flatten.map (entry (Function.update s.buffers number _)))
    rw [entry_clear, ← List.map_cons]
    exact (h.pop_perm hmax hnumbers).map _
  · rw [h.requested_fresh hnumbers, heq]
    exact ⟨rfl, map_entry_update h.made_notMem_kept buffer⟩
  · rw [h.requested_fresh hnumbers, heq]
    exact ⟨rfl, rfl⟩

/-- **A return is entered as users see it**. -/
theorem Sound.enters_release (h : s.Sound limits) (hheld : number ∈ s.held) :
    Enters (s.outcome (.release number)) s (s.release number) := by
  rw [outcome_release hheld]
  cases haccepting : s.arena.accepting? (s.buffers number) with
  | none =>
    rw [release_of_none haccepting, Arena.release_of_none haccepting]
    exact ⟨rfl, rfl⟩
  | some shift =>
    obtain ⟨⟨-, hmax⟩, -, -⟩ := Arena.accepting?_eq_some_iff.1 haccepting
    rw [release_of_some haccepting, Arena.release_of_some haccepting]
    refine ⟨rfl, ?_⟩
    show ((s.setNumbers shift _).flatten.map (entry (Function.update s.buffers number _))).Perm
      (entry s.buffers number :: s.kept.flatten.map _)
    rw [entry_clear, ← List.map_cons]
    exact (h.push_perm hmax number).map _

/-- **What users see is what happens.** -/
theorem Sound.enters_step (h : s.Sound limits) (op : CirculationOp) :
    Enters (s.outcome op) s (s.step op) := by
  cases op with
  | take class_ => exact h.enters_take class_
  | takeFor capacity => exact h.enters_take _
  | bring buffer =>
    exact ⟨rfl, map_entry_update h.made_notMem_kept buffer⟩
  | change number buffer =>
    show Enters .elsewhere s (if number ∈ s.held then _ else s)
    split
    · next hheld => exact ⟨rfl, map_entry_update (h.notMem_kept hheld) buffer⟩
    · exact ⟨rfl, rfl⟩
  | release number =>
    show Enters _ s (if number ∈ s.held then s.release number else s)
    split
    · next hheld => exact h.enters_release hheld
    · next hheld =>
      rw [outcome, if_neg hheld]
      exact ⟨rfl, rfl⟩
  | drop number => exact ⟨rfl, rfl⟩
  | shrink =>
    refine ⟨rfl, ?_⟩
    show (s.kept.map fun _ ↦ []).flatten.map _ = []
    rw [Arena.flatten_map_nil]
    rfl

end Enters

/-! ### Keeping the books -/

/-- What is true of the counters after what users have seen. -/
structure Counts (outcomes : List ArenaOutcome) (counters : ArenaStats) : Prop where
  requests : counters.freshAllocations + counters.reuses = outcomes.countP ArenaOutcome.isRequest
  reuses : counters.reuses = outcomes.countP ArenaOutcome.isReuse
  returns : counters.released + counters.discarded = outcomes.countP ArenaOutcome.isReturn
  released : counters.released = outcomes.countP ArenaOutcome.isAcceptance

/-- The arena agrees with the books. -/
structure Books (limits : ArenaLimits) (outcomes : List ArenaOutcome) (s : Circulation) : Prop where
  sound : s.Sound limits
  counts : Counts outcomes s.arena.counters
  standing : (ArenaLedger.ofOutcomes outcomes).standing.Perm s.entries
  /-- What was accepted was reused or dropped since, or is still there. -/
  balance : s.entries.length + s.arena.counters.reuses + (ArenaLedger.ofOutcomes outcomes).dropped =
    s.arena.counters.released

section Books

variable {limits : ArenaLimits} {outcomes : List ArenaOutcome} {s s' : Circulation}
  {counters : ArenaStats}

/-- The counters go up with each outcome as they have to. -/
theorem Counts.concat (h : Counts outcomes counters) (outcome : ArenaOutcome) :
    Counts (outcomes ++ [outcome]) (outcome.count counters) := by
  obtain ⟨hrequests, hreuses, hreturns, hreleased⟩ := h
  -- Of the counters that are added up, each outcome raises one at most.
  constructor <;> rw [List.countP_append, List.countP_singleton] <;> cases outcome <;>
    simp only [ArenaOutcome.count, ArenaOutcome.isRequest, ArenaOutcome.isReuse,
      ArenaOutcome.isReturn, ArenaOutcome.isAcceptance] <;> grind

/-- **Every operation is entered in the books.** -/
theorem Books.enter (h : Books limits outcomes s) (hsound : s'.Sound limits) {outcome : ArenaOutcome}
    (henters : Enters outcome s s') : Books limits (outcomes ++ [outcome]) s' := by
  obtain ⟨hcounters, hentries⟩ := henters
  have hnodup : (s.entries.map Prod.fst).Nodup := by
    rw [map_fst_entries]
    exact (List.nodup_append.1 h.sound.nodup).1
  refine ⟨hsound, hcounters ▸ h.counts.concat outcome, ?_, ?_⟩
  · rw [ArenaLedger.ofOutcomes_concat]
    exact hentries.standing_enter h.standing hnodup
  · rw [ArenaLedger.ofOutcomes_concat, hcounters]
    have hbalance := h.balance
    have hmoved := hentries.balance_enter h.standing.length_eq s.arena.counters
    omega

theorem books_new (limits : ArenaLimits) : Books limits [] (.new limits) := by
  have hentries : (Circulation.new limits).entries = [] := by
    rw [entries, flatten_kept_new, List.map_nil]
  refine ⟨sound_new limits, ⟨rfl, rfl, rfl, rfl⟩, hentries ▸ .nil, ?_⟩
  rw [hentries]
  rfl

/-- The books are kept by what users do, one operation after another. -/
theorem Books.run (h : Books limits outcomes s) (ops : List CirculationOp) :
    Books limits (outcomes ++ s.outcomes ops) (s.run ops) := by
  induction ops generalizing s outcomes with
  | nil =>
    show Books limits (outcomes ++ []) s
    rwa [List.append_nil]
  | cons op ops ih =>
    have hop := ih (h.enter (h.sound.step op) (h.sound.enters_step op))
    rwa [List.append_assoc] at hop

/-- **The books are right** for every history of a new arena. -/
theorem books_run (limits : ArenaLimits) (ops : List CirculationOp) :
    Books limits ((Circulation.new limits).outcomes ops) ((Circulation.new limits).run ops) :=
  (books_new limits).run ops

theorem Sound.lists_flatten (h : s.Sound limits) :
    s.arena.lists.flatten = s.kept.flatten.map s.buffers := by
  rw [h.lists_eq, ← List.map_flatten]

/-- What was accepted is reused, dropped, or among the cached buffers. -/
theorem Books.cachedBuffers (h : Books limits outcomes s) :
    s.arena.stats.cachedBuffers + s.arena.stats.reuses + (ArenaLedger.ofOutcomes outcomes).dropped =
      s.arena.stats.released := by
  have hlength : s.entries.length = s.arena.lists.flatten.length := by
    rw [h.sound.lists_flatten, entries, List.length_map, List.length_map]
  have hbalance := h.balance
  rwa [hlength] at hbalance

/-- The books name just the buffers on the free lists. -/
theorem Books.standing_perm (h : Books limits outcomes s) :
    ((ArenaLedger.ofOutcomes outcomes).standing.map fun entry ↦ s.buffers entry.1).Perm
      s.arena.lists.flatten := by
  have hperm := h.standing.map fun entry ↦ s.buffers entry.1
  rw [entries, List.map_map] at hperm
  rwa [h.sound.lists_flatten]

/-- A buffer on a free list has the capacity with which it was accepted. -/
theorem Books.capacity_eq (h : Books limits outcomes s) :
    ∀ entry ∈ (ArenaLedger.ofOutcomes outcomes).standing, (s.buffers entry.1).capacity = entry.2 := by
  intro entry hentry
  obtain ⟨number, -, rfl⟩ := List.mem_map.1 (h.standing.mem_iff.1 hentry)
  rfl

/-- The cached bytes are the capacities in the books. -/
theorem Books.cachedBytes (h : Books limits outcomes s) :
    s.arena.stats.cachedBytes = ((ArenaLedger.ofOutcomes outcomes).standing.map Prod.snd).sum := by
  show s.arena.cachedBytes = _
  rw [s.arena.cachedBytes_eq_sum, h.sound.lists_flatten, List.map_map,
    (h.standing.map Prod.snd).sum_eq, entries, List.map_map]
  rfl

end Books

/-! ### Buffers that come back -/

/-- The operation has nothing to do with the free list of the class with the given exponent. -/
def Leaves (s : Circulation) (shift : Nat) : CirculationOp → Prop
  | .take class_ => s.arena.serving class_ ≠ shift
  | .takeFor capacity => s.arena.serving (.forCapacity capacity) ≠ shift
  | .release number => number ∈ s.held → s.arena.accepting? (s.buffers number) ≠ some shift
  | .shrink => False
  | .bring _ | .change .. | .drop _ => True

/-- None of the operations one after another has anything to do with the free list. -/
def LeavesAll (s : Circulation) (shift : Nat) : List CirculationOp → Prop
  | [] => True
  | op :: ops => s.Leaves shift op ∧ (s.step op).LeavesAll shift ops

/-- A free list is as it was. -/
structure SameList (shift : Nat) (s s' : Circulation) : Prop where
  numbers : s'.numbers shift = s.numbers shift
  buffers : ∀ number ∈ s.numbers shift, s'.buffers number = s.buffers number

section Leaves

variable {limits : ArenaLimits} {s s' : Circulation} {shift other number : Nat} {class_ : SizeClass}
  {buffer : Scratch}

theorem Sound.numbers_setNumbers (h : s.Sound limits) (hmin : s.arena.minShift ≤ shift)
    (hmax : shift ≤ s.arena.maxShift) (list : List Nat) (hother : s.arena.minShift ≤ other) :
    (s.setNumbers shift list).getD (other - s.arena.minShift) [] =
      if other = shift then list else s.numbers other := by
  rw [setNumbers, List.getD_eq_getElem?_getD]
  split
  · next heq => rw [heq, List.getElem?_set_self (h.slot_lt hmax), Option.getD_some]
  · next hne => rw [List.getElem?_set_ne (by omega), ← List.getD_eq_getElem?_getD, numbers]

theorem Sound.minShift_eq (h : s.Sound limits) (h' : s'.Sound limits) :
    s.arena.minShift = s'.arena.minShift :=
  h.pooled.minShift_eq.trans h'.pooled.minShift_eq.symm

theorem Sound.maxShift_eq (h : s.Sound limits) (h' : s'.Sound limits) :
    s.arena.maxShift = s'.arena.maxShift :=
  h.pooled.maxShift_eq.trans h'.pooled.maxShift_eq.symm

theorem Sound.serving_eq (h : s.Sound limits) (h' : s'.Sound limits) (class_ : SizeClass) :
    s.arena.serving class_ = s'.arena.serving class_ := by
  rw [Arena.serving, Arena.serving, h.minShift_eq h']

/-- A buffer on none of the lists may be changed. -/
theorem sameList_update (hnumbers : s'.numbers shift = s.numbers shift)
    (hbuffers : s'.buffers = Function.update s.buffers number buffer)
    (hnotMem : number ∉ s.numbers shift) : SameList shift s s' := by
  refine ⟨hnumbers, fun other hother ↦ ?_⟩
  rw [hbuffers, Function.update_of_ne]
  rintro rfl
  exact hnotMem hother

/-- A request that is served from another class leaves a free list as it is. -/
theorem Sound.sameList_take (h : s.Sound limits) (hmin : s.arena.minShift ≤ shift)
    (hmax : shift ≤ s.arena.maxShift) (hne : s.arena.serving class_ ≠ shift) :
    SameList shift s (s.take class_) := by
  have hafter := h.take class_
  rcases h.take_cases class_ with
    ⟨number, rest, hserving, -, -, heq⟩ | ⟨-, ⟨buffer, -, heq⟩ | ⟨panic, -, heq⟩⟩
  · have hnumbers : (s.take class_).numbers shift = s.numbers shift := by
      rw [heq]
      have hset := h.numbers_setNumbers (Arena.minShift_le_serving ..) hserving rest hmin
      rwa [if_neg hne.symm] at hset
    refine sameList_update hnumbers (congrArg Circulation.buffers heq) fun hmem ↦ ?_
    -- The number is now held, and would be on a free list as well.
    have hmax' : shift ≤ (s.take class_).arena.maxShift := by rwa [heq]
    exact hafter.notMem_kept (heq ▸ List.mem_cons_self) (hafter.mem_flatten hmax' (hnumbers ▸ hmem))
  · rw [heq]
    exact sameList_update rfl rfl fun hmem ↦ h.made_notMem_kept (h.mem_flatten hmax hmem)
  · rw [heq]
    exact ⟨rfl, fun _ _ ↦ rfl⟩

/-- A return to another class leaves it as it is. -/
theorem Sound.sameList_release (h : s.Sound limits) (hmin : s.arena.minShift ≤ shift)
    (hmax : shift ≤ s.arena.maxShift) (hheld : number ∈ s.held)
    (hne : s.arena.accepting? (s.buffers number) ≠ some shift) :
    SameList shift s (s.release number) := by
  cases haccepting : s.arena.accepting? (s.buffers number) with
  | none =>
    rw [release_of_none haccepting, Arena.release_of_none haccepting]
    exact ⟨rfl, fun _ _ ↦ rfl⟩
  | some other =>
    obtain ⟨⟨hmin', hmax'⟩, -, -⟩ := Arena.accepting?_eq_some_iff.1 haccepting
    rw [release_of_some haccepting, Arena.release_of_some haccepting]
    have hset := h.numbers_setNumbers hmin' hmax' (number :: s.numbers other) hmin
    have hother : shift ≠ other := fun heq ↦ hne (heq ▸ haccepting)
    rw [if_neg hother] at hset
    exact sameList_update hset rfl fun hmem ↦ h.notMem_kept hheld (h.mem_flatten hmax hmem)

/-- So does any operation that has nothing to do with the class. -/
theorem Sound.sameList_step (h : s.Sound limits) (hmin : s.arena.minShift ≤ shift)
    (hmax : shift ≤ s.arena.maxShift) {op : CirculationOp} (hleaves : s.Leaves shift op) :
    SameList shift s (s.step op) := by
  cases op with
  | take class_ => exact h.sameList_take hmin hmax hleaves
  | takeFor capacity => exact h.sameList_take hmin hmax hleaves
  | bring buffer =>
    exact sameList_update rfl rfl fun hmem ↦ h.made_notMem_kept (h.mem_flatten hmax hmem)
  | change number buffer =>
    show SameList shift s (if number ∈ s.held then _ else s)
    split
    · next hheld =>
      exact sameList_update rfl rfl fun hmem ↦ h.notMem_kept hheld (h.mem_flatten hmax hmem)
    · exact ⟨rfl, fun _ _ ↦ rfl⟩
  | release number =>
    show SameList shift s (if number ∈ s.held then s.release number else s)
    split
    · next hheld => exact h.sameList_release hmin hmax hheld (hleaves hheld)
    · exact ⟨rfl, fun _ _ ↦ rfl⟩
  | drop number => exact ⟨rfl, fun _ _ ↦ rfl⟩
  | shrink => exact hleaves.elim

/-- So do such operations, one after another. -/
theorem Sound.sameList_run (h : s.Sound limits) (hmin : s.arena.minShift ≤ shift)
    (hmax : shift ≤ s.arena.maxShift) {ops : List CirculationOp} (hleaves : s.LeavesAll shift ops) :
    SameList shift s (s.run ops) := by
  induction ops generalizing s with
  | nil => exact ⟨rfl, fun _ _ ↦ rfl⟩
  | cons op ops ih =>
    obtain ⟨hop, hops⟩ := hleaves
    have hsame := h.sameList_step hmin hmax hop
    have hstep := h.step op
    have hrest := ih hstep (by rwa [hstep.minShift_eq h]) (by rwa [hstep.maxShift_eq h]) hops
    exact ⟨hrest.numbers.trans hsame.numbers, fun number hmem ↦
      (hrest.buffers number (hsame.numbers ▸ hmem)).trans (hsame.buffers number hmem)⟩

/-- A buffer that is accepted comes first on the list that accepts it. -/
theorem Sound.pushed_release (h : s.Sound limits)
    (haccepting : s.arena.accepting? (s.buffers number) = some shift) :
    (s.release number).numbers shift = number :: s.numbers shift ∧
      (s.release number).buffers number = (s.buffers number).clear := by
  obtain ⟨⟨hmin, hmax⟩, -, -⟩ := Arena.accepting?_eq_some_iff.1 haccepting
  rw [release_of_some haccepting, Arena.release_of_some haccepting]
  exact ⟨(h.numbers_setNumbers hmin hmax _ hmin).trans (if_pos rfl), Function.update_self ..⟩

end Leaves

/-- The user is handed a buffer for the class. Returned as it was, it is accepted, and it is the one that
the next request for the class is served with, if nothing else was done to that free list. -/
def Regains (s : Circulation) (class_ : SizeClass) (buffer : Scratch) : Prop :=
  ∃ number, (s.take class_).held = number :: s.held ∧
    (s.take class_).buffers number = buffer ∧
    (s.take class_).outcome (.release number) = .accepted number buffer.capacity ∧
    ∀ ops, (s.run [.take class_, .release number]).LeavesAll (s.arena.serving class_) ops →
      let later := (s.run [.take class_, .release number]).run ops
      later.outcome (.take class_) = .reused number ∧
        (Arena.take class_ later.arena).1 = .ok buffer

/-- **A buffer that is taken and returned comes back**, unless operations on its class come in between. -/
theorem Sound.regains {limits : ArenaLimits} {s : Circulation} {class_ : SizeClass} {buffer : Scratch}
    (h : s.Sound limits) (hroom : 1 ≤ limits.maxBuffersPerClass)
    (hmax : s.arena.serving class_ ≤ s.arena.maxShift)
    (hok : (Arena.take class_ s.arena).1 = .ok buffer) : s.Regains class_ buffer := by
  obtain ⟨number, hheld, hbuffer⟩ := held_take hok
  obtain ⟨haccepting, hempty⟩ := h.pooled.accepting?_take hroom hmax hok
  rw [← h.arena_take, ← hbuffer] at haccepting
  have hmin := Arena.minShift_le_serving class_ s.arena
  have hmem : number ∈ (s.take class_).held := hheld ▸ List.mem_cons_self
  have htaken := h.take class_
  have hreturned := htaken.release hmem
  have hrun : s.run [.take class_, .release number] = (s.take class_).release number := if_pos hmem
  refine ⟨number, hheld, hbuffer, ?_, fun ops hleaves ↦ ?_⟩
  · rw [outcome_release hmem, Arena.release_of_some haccepting, hbuffer]
    rfl
  · obtain ⟨hnumbers, hreturn⟩ := htaken.pushed_release haccepting
    rw [hrun] at hleaves ⊢
    have hlater := hreturned.run ops
    have hsame := hreturned.sameList_run (h.minShift_eq hreturned ▸ hmin)
      (h.maxShift_eq hreturned ▸ hmax) hleaves
    have hbuffers := hsame.buffers number (hnumbers ▸ List.mem_cons_self)
    have hserving := h.serving_eq hlater class_
    obtain ⟨hreused, hanswer⟩ := hlater.reuses (hserving ▸ hsame.numbers.trans hnumbers)
    rw [hbuffers, hreturn, hbuffer] at hanswer
    exact ⟨hreused, hanswer.trans (congrArg Except.ok (Scratch.clear_of_empty hempty))⟩

/-! ### The main result -/

/-- What can be relied on when these operations on a new arena with these limits have led to this, and
users have seen these outcomes. -/
structure Recorded (limits : ArenaLimits) (ops : List CirculationOp) (outcomes : List ArenaOutcome)
    (s : Circulation) : Prop where
  /-- Requests are counted, by whether a buffer was reused. -/
  requests : s.arena.stats.freshAllocations + s.arena.stats.reuses =
    ops.countP CirculationOp.isRequest
  reuses : s.arena.stats.reuses = outcomes.countP ArenaOutcome.isReuse
  /-- Returns are counted, by whether the buffer was kept. -/
  returns : s.arena.stats.released + s.arena.stats.discarded =
    outcomes.countP ArenaOutcome.isReturn
  released : s.arena.stats.released = outcomes.countP ArenaOutcome.isAcceptance
  /-- What was kept is still there, unless it was reused or dropped since. -/
  balance : s.arena.stats.reuses + (ArenaLedger.ofOutcomes outcomes).dropped ≤
    s.arena.stats.released
  cachedBuffers : s.arena.stats.cachedBuffers =
    s.arena.stats.released - s.arena.stats.reuses - (ArenaLedger.ofOutcomes outcomes).dropped
  /-- The buffers on the free lists are those in the books, with the capacities they were returned with. -/
  standing : ((ArenaLedger.ofOutcomes outcomes).standing.map fun entry ↦ s.buffers entry.1).Perm
    s.arena.lists.flatten
  capacity_eq : ∀ entry ∈ (ArenaLedger.ofOutcomes outcomes).standing,
    (s.buffers entry.1).capacity = entry.2
  cachedBytes : s.arena.stats.cachedBytes =
    ((ArenaLedger.ofOutcomes outcomes).standing.map Prod.snd).sum
  /-- Dropping everything gives back what was cached, and leaves the counters. -/
  shrink : (Arena.shrink s.arena).1 = s.arena.stats.cachedBytes ∧
    (Arena.shrink s.arena).2.stats = { s.arena.stats with cachedBuffers := 0, cachedBytes := 0 }
  /-- Buffers come back to who returns them, where anything is kept and the allocation does not fail. -/
  regains : 1 ≤ limits.maxBuffersPerClass → ∀ class_ buffer,
    s.arena.serving class_ ≤ s.arena.maxShift → (Arena.take class_ s.arena).1 = .ok buffer →
      s.Regains class_ buffer

/-- **Arenas keep their books**, whatever the limits and whatever the users do. -/
theorem recorded_run (limits : ArenaLimits) (ops : List CirculationOp) :
    Recorded limits ops ((Circulation.new limits).outcomes ops) ((Circulation.new limits).run ops) := by
  have hbooks := books_run limits ops
  have hsound := hbooks.sound
  have hbalance := hbooks.cachedBuffers
  exact
    { requests := hbooks.counts.requests.trans (countP_isRequest ..)
      reuses := hbooks.counts.reuses
      returns := hbooks.counts.returns
      released := hbooks.counts.released
      balance := by omega
      cachedBuffers := by omega
      standing := hbooks.standing_perm
      capacity_eq := hbooks.capacity_eq
      cachedBytes := hbooks.cachedBytes
      shrink := ⟨rfl, Arena.stats_shrink _⟩
      regains := fun hroom _ _ hmax hok ↦ hsound.regains hroom hmax hok }

/-- A free list that has two buffers keeps no third, and hands out the last one first. -/
example :
    (Circulation.new ⟨64, 1024, 2⟩).outcomes
      [.takeFor 128, .takeFor 100, .takeFor 65, .release 0, .release 1, .release 2, .takeFor 128, .shrink] =
        [.fresh, .fresh, .fresh, .accepted 0 128, .accepted 1 128, .refused, .reused 1, .shrunk] := by
  decide +kernel

end Circulation

end Conduit
