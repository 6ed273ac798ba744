import Conduit.Proofs.Arena.FreeLists
import Mathlib.Data.List.Perm.Subperm
import Mathlib.Logic.Function.Basic

/-!
# Buffers in circulation

The users of an arena hold the buffers that they were handed out, and others that they made elsewhere.
They do with them what they like, and return them or not. To tell buffers apart, each is given a number
when it is made (`Circulation`); the arena itself knows nothing of numbers.

Main statement: whatever the limits and whatever the users do, the free lists hold what they are meant
to hold, requests are served as promised, and what a user holds is on no free list
(`Circulation.serves_run`). It rests on two invariants that every operation keeps: that of the arena
(`Arena.Pooled`), and that the numbers on the free lists and in the users' hands are all different
(`Circulation.Sound`).
-/

namespace Conduit

/-- An arena and the buffers around it, each with a number. -/
structure Circulation where
  /-- The arena. -/
  arena : Arena
  /-- The buffers. -/
  buffers : Nat → Scratch
  /-- The numbers of the buffers on the free lists. -/
  kept : List (List Nat)
  /-- The numbers of the buffers that users hold. -/
  held : List Nat
  /-- How many numbers were given. -/
  made : Nat

/-- What users of an arena do. -/
inductive CirculationOp where
  /-- Ask the arena for a buffer of a class. -/
  | take (class_ : SizeClass)
  /-- Ask the arena for a buffer of a capacity. -/
  | takeFor (capacity : Nat)
  /-- Make a buffer elsewhere. -/
  | bring (buffer : Scratch)
  /-- Make a buffer that is held into anything, by writing to it and growing it. -/
  | change (number : Nat) (buffer : Scratch)
  /-- Return a buffer that is held. -/
  | release (number : Nat)
  /-- Forget a buffer that is held. -/
  | drop (number : Nat)
  /-- Have the arena drop what it keeps. -/
  | shrink

namespace Circulation

/-- No buffers around a new arena. -/
def new (limits : ArenaLimits) : Circulation where
  arena := .new limits
  buffers _ := default
  kept := List.replicate ((Arena.new limits).maxShift - (Arena.new limits).minShift + 1) []
  held := []
  made := 0

/-- The numbers on the free list of the class with the given exponent, the last return first. -/
def numbers (s : Circulation) (shift : Nat) : List Nat :=
  s.kept.getD (shift - s.arena.minShift) []

/-- Replaces the numbers on a free list. -/
def setNumbers (s : Circulation) (shift : Nat) (numbers : List Nat) : List (List Nat) :=
  s.kept.set (shift - s.arena.minShift) numbers

/-- A user holds a buffer that is new. -/
def receive (s : Circulation) (buffer : Scratch) : Circulation :=
  { s with
    buffers := Function.update s.buffers s.made buffer
    held := s.made :: s.held
    made := s.made + 1 }

/-- A user asks for a buffer. It is the first on the free list of the class, if there is one. -/
def take (s : Circulation) (class_ : SizeClass) : Circulation :=
  let (answer, arena) := Arena.take class_ s.arena
  let shift := s.arena.serving class_
  match answer, s.numbers shift with
  | .ok buffer, number :: rest =>
    { s with
      arena
      buffers := Function.update s.buffers number buffer
      kept := s.setNumbers shift rest
      held := number :: s.held }
  | .ok buffer, [] => { s with arena }.receive buffer
  | .error _, _ => { s with arena }

/-- A user returns a buffer. -/
def release (s : Circulation) (number : Nat) : Circulation :=
  let arena := (Arena.release (s.buffers number) s.arena).2
  match s.arena.accepting? (s.buffers number) with
  | some shift =>
    { s with
      arena
      buffers := Function.update s.buffers number (s.buffers number).clear
      kept := s.setNumbers shift (number :: s.numbers shift)
      held := s.held.erase number }
  | none => { s with arena, held := s.held.erase number }

/-- What comes of an operation. Nobody can do anything to a buffer that is not held. -/
def step (s : Circulation) : CirculationOp → Circulation
  | .take class_ => s.take class_
  | .takeFor capacity => s.take (.forCapacity capacity)
  | .bring buffer => s.receive buffer
  | .change number buffer =>
    if number ∈ s.held then { s with buffers := Function.update s.buffers number buffer } else s
  | .release number => if number ∈ s.held then s.release number else s
  | .drop number => { s with held := s.held.erase number }
  | .shrink => { s with arena := (Arena.shrink s.arena).2, kept := s.kept.map fun _ ↦ [] }

/-- What comes of operations one after another. -/
def run (s : Circulation) (ops : List CirculationOp) : Circulation :=
  ops.foldl step s

/-- The numbers of all buffers that there are. -/
def all (s : Circulation) : List Nat :=
  s.kept.flatten ++ s.held

/-- What every operation keeps. -/
structure Sound (limits : ArenaLimits) (s : Circulation) : Prop where
  pooled : s.arena.Pooled limits
  /-- The numbers are those of the buffers on the free lists. -/
  lists_eq : s.arena.lists = s.kept.map (List.map s.buffers)
  /-- No buffer is in two places. -/
  nodup : s.all.Nodup
  lt_made : ∀ number ∈ s.all, number < s.made

/-! ### Numbers and buffers -/

section Sound

variable {limits : ArenaLimits} {s s' : Circulation} {shift number : Nat} {class_ : SizeClass}
  {buffer : Scratch}

/-- A number that comes first on one of the lists comes first altogether, but for the order. -/
theorem flatten_set_cons_perm {lists : List (List Nat)} {slot : Nat} (h : slot < lists.length)
    (number : Nat) (rest : List Nat) :
    (lists.set slot (number :: rest)).flatten.Perm (number :: (lists.set slot rest).flatten) := by
  induction lists generalizing slot with
  | nil => cases h
  | cons first lists ih =>
    cases slot with
    | zero => exact .refl _
    | succ slot => exact ((ih (Nat.lt_of_succ_lt_succ h)).append_left first).trans List.perm_middle

theorem map_update_of_notMem {list : List Nat} (h : number ∉ list) (buffers : Nat → Scratch)
    (buffer : Scratch) :
    list.map (Function.update buffers number buffer) = list.map buffers := by
  refine List.map_congr_left fun other hother ↦ Function.update_of_ne ?_ _ _
  rintro rfl
  exact h hother

/-- A number on none of the lists may stand for anything. -/
theorem map_map_update_of_notMem {kept : List (List Nat)} (h : number ∉ kept.flatten)
    (buffers : Nat → Scratch) (buffer : Scratch) :
    kept.map (List.map (Function.update buffers number buffer)) = kept.map (List.map buffers) :=
  List.map_congr_left fun list hlist ↦
    map_update_of_notMem (fun hmem ↦ h (List.mem_flatten.2 ⟨list, hlist, hmem⟩)) buffers buffer

/-- A free list holds the buffers of its numbers. -/
theorem Sound.list_eq (h : s.Sound limits) (shift : Nat) :
    s.arena.list shift = (s.numbers shift).map s.buffers := by
  rw [Arena.list, h.lists_eq, numbers, List.getD_eq_getElem?_getD, List.getD_eq_getElem?_getD,
    List.getElem?_map]
  cases s.kept[shift - s.arena.minShift]? <;> rfl

/-- There is a free list of numbers for every class between the two bounds. -/
theorem Sound.length_kept (h : s.Sound limits) :
    s.kept.length = s.arena.maxShift - s.arena.minShift + 1 := by
  rw [← h.pooled.length_eq, h.lists_eq, List.length_map]

theorem Sound.slot_lt (h : s.Sound limits) (hmax : shift ≤ s.arena.maxShift) :
    shift - s.arena.minShift < s.kept.length := by
  rw [h.length_kept]
  omega

theorem Sound.getElem?_kept (h : s.Sound limits) (hmax : shift ≤ s.arena.maxShift) :
    s.kept[shift - s.arena.minShift]? = some (s.numbers shift) := by
  rw [numbers, List.getD_eq_getElem?_getD, List.getElem?_eq_getElem (h.slot_lt hmax), Option.getD_some]

theorem Sound.setNumbers_self (h : s.Sound limits) (hmax : shift ≤ s.arena.maxShift) :
    s.setNumbers shift (s.numbers shift) = s.kept := by
  obtain ⟨hslot, heq⟩ := List.getElem?_eq_some_iff.1 (h.getElem?_kept hmax)
  rw [setNumbers, ← heq, List.set_getElem_self]

/-- The first number of a list is taken off it. -/
theorem Sound.pop_perm (h : s.Sound limits) (hmax : shift ≤ s.arena.maxShift) {rest : List Nat}
    (hnumbers : s.numbers shift = number :: rest) :
    s.kept.flatten.Perm (number :: (s.setNumbers shift rest).flatten) := by
  have hself := h.setNumbers_self hmax
  rw [hnumbers] at hself
  have hset := flatten_set_cons_perm (h.slot_lt hmax) number rest
  rwa [← setNumbers, hself] at hset

/-- A number is put in front of a list. -/
theorem Sound.push_perm (h : s.Sound limits) (hmax : shift ≤ s.arena.maxShift) (number : Nat) :
    (s.setNumbers shift (number :: s.numbers shift)).flatten.Perm (number :: s.kept.flatten) := by
  have hset := flatten_set_cons_perm (h.slot_lt hmax) number (s.numbers shift)
  rwa [← setNumbers, ← setNumbers, h.setNumbers_self hmax] at hset

/-- What lies on a free list lies on one of them. -/
theorem Sound.mem_flatten (h : s.Sound limits) (hmax : shift ≤ s.arena.maxShift)
    (hmem : number ∈ s.numbers shift) : number ∈ s.kept.flatten :=
  List.mem_flatten.2 ⟨_, List.mem_of_getElem? (h.getElem?_kept hmax), hmem⟩

theorem Sound.numbers_eq_nil (h : s.Sound limits) (hmax : s.arena.maxShift < shift) :
    s.numbers shift = [] := by
  have hle := h.pooled.minShift_le
  have hslot : s.kept.length ≤ shift - s.arena.minShift := by
    rw [h.length_kept]
    omega
  rw [numbers, List.getD_eq_getElem?_getD, List.getElem?_eq_none hslot, Option.getD_none]

/-- What is held is on no free list. -/
theorem Sound.notMem_kept (h : s.Sound limits) (hheld : number ∈ s.held) :
    number ∉ s.kept.flatten :=
  fun hkept ↦ (List.nodup_append.1 h.nodup).2.2 number hkept number hheld rfl

/-! ### Operations -/

/-- Buffers are moved, or get lost. -/
theorem Sound.of_subperm (h : s.Sound limits) (hpooled : s'.arena.Pooled limits)
    (hlists : s'.arena.lists = s'.kept.map (List.map s'.buffers)) (hall : s'.all.Subperm s.all)
    (hmade : s'.made = s.made) : s'.Sound limits := by
  obtain ⟨rest, hperm, hsublist⟩ := hall
  refine ⟨hpooled, hlists, hperm.nodup_iff.1 (h.nodup.sublist hsublist), fun number hmem ↦ ?_⟩
  rw [hmade]
  exact h.lt_made number (hsublist.subset (hperm.mem_iff.2 hmem))

/-- The next number is new. -/
theorem Sound.made_notMem (h : s.Sound limits) : s.made ∉ s.all :=
  fun hmem ↦ Nat.lt_irrefl _ (h.lt_made _ hmem)

theorem Sound.made_notMem_kept (h : s.Sound limits) : s.made ∉ s.kept.flatten :=
  fun hmem ↦ h.made_notMem (List.mem_append_left _ hmem)

/-- A new buffer is in no other place. -/
theorem Sound.receive (h : s.Sound limits) (buffer : Scratch) : (s.receive buffer).Sound limits := by
  have hall : (s.receive buffer).all.Perm (s.made :: s.all) := List.perm_middle
  refine ⟨h.pooled, ?_, hall.nodup_iff.2 (List.nodup_cons.2 ⟨h.made_notMem, h.nodup⟩), fun number hmem ↦ ?_⟩
  · show s.arena.lists = s.kept.map (List.map (Function.update s.buffers s.made buffer))
    rw [map_map_update_of_notMem h.made_notMem_kept, h.lists_eq]
  · rcases List.mem_cons.1 (hall.mem_iff.1 hmem) with rfl | hold
    · exact Nat.lt_succ_self _
    · exact Nat.lt_succ_of_lt (h.lt_made number hold)

section Take

variable {rest : List Nat} {arena : Arena} {panic : Panic}

/-- A request takes the first number of its free list, if there is one. -/
theorem take_of_cons (h : Arena.take class_ s.arena = (.ok buffer, arena))
    (hnumbers : s.numbers (s.arena.serving class_) = number :: rest) :
    s.take class_ =
      { s with
        arena
        buffers := Function.update s.buffers number buffer
        kept := s.setNumbers (s.arena.serving class_) rest
        held := number :: s.held } := by
  simp only [Circulation.take, h, hnumbers]

/-- A request for which nothing lies ready gives a new buffer. -/
theorem take_of_nil (h : Arena.take class_ s.arena = (.ok buffer, arena))
    (hnumbers : s.numbers (s.arena.serving class_) = []) :
    s.take class_ = { s with arena }.receive buffer := by
  simp only [Circulation.take, h, hnumbers]

theorem take_of_error (h : Arena.take class_ s.arena = (.error panic, arena)) :
    s.take class_ = { s with arena } := by
  simp only [Circulation.take, h]

/-- The user holds what the arena hands out. -/
theorem held_take (h : (Arena.take class_ s.arena).1 = .ok buffer) :
    ∃ number, (s.take class_).held = number :: s.held ∧ (s.take class_).buffers number = buffer := by
  have htake : Arena.take class_ s.arena = (.ok buffer, (Arena.take class_ s.arena).2) :=
    Prod.ext h rfl
  cases hnumbers : s.numbers (s.arena.serving class_) with
  | nil =>
    rw [take_of_nil htake hnumbers]
    exact ⟨s.made, rfl, Function.update_self ..⟩
  | cons number rest =>
    rw [take_of_cons htake hnumbers]
    exact ⟨number, rfl, Function.update_self ..⟩

/-- A request that no list serves gives a new number, unless the allocation fails. -/
theorem take_of_allocate {capacity : Nat}
    (h : Arena.take class_ s.arena = (Scratch.allocate capacity, arena))
    (hnumbers : s.numbers (s.arena.serving class_) = []) :
    (∃ buffer, Arena.take class_ s.arena = (.ok buffer, arena) ∧
      s.take class_ = { s with arena }.receive buffer) ∨
    ∃ panic, Arena.take class_ s.arena = (.error panic, arena) ∧ s.take class_ = { s with arena } := by
  cases hallocate : Scratch.allocate capacity with
  | ok buffer =>
    rw [hallocate] at h
    exact .inl ⟨buffer, h, take_of_nil h hnumbers⟩
  | error panic =>
    rw [hallocate] at h
    exact .inr ⟨panic, h, take_of_error h⟩

/-- **What a request does.** It moves the first number of a list to the user. Where there is none, it gives
a new number, unless the allocation fails. -/
theorem Sound.take_cases (h : s.Sound limits) (class_ : SizeClass) :
    (∃ number rest, s.arena.serving class_ ≤ s.arena.maxShift ∧
      s.numbers (s.arena.serving class_) = number :: rest ∧
      Arena.take class_ s.arena =
        (.ok (s.buffers number).clear,
          (s.arena.setList (s.arena.serving class_) (rest.map s.buffers)).countReuse) ∧
      s.take class_ =
        { s with
          arena := (s.arena.setList (s.arena.serving class_) (rest.map s.buffers)).countReuse
          buffers := Function.update s.buffers number (s.buffers number).clear
          kept := s.setNumbers (s.arena.serving class_) rest
          held := number :: s.held }) ∨
    s.numbers (s.arena.serving class_) = [] ∧
      ((∃ buffer, Arena.take class_ s.arena = (.ok buffer, s.arena.countFresh) ∧
        s.take class_ = { s with arena := s.arena.countFresh }.receive buffer) ∨
      ∃ panic, Arena.take class_ s.arena = (.error panic, s.arena.countFresh) ∧
        s.take class_ = { s with arena := s.arena.countFresh }) := by
  rcases Arena.take_cases class_ s.arena with
    ⟨buffer, others, hmax, hlist, htake⟩ | ⟨-, hlist, htake⟩ | ⟨hover, htake⟩
  · rw [h.list_eq] at hlist
    obtain ⟨number, rest, hnumbers, rfl, rfl⟩ := List.map_eq_cons_iff.1 hlist
    exact .inl ⟨number, rest, hmax, hnumbers, htake, take_of_cons htake hnumbers⟩
  · rw [h.list_eq] at hlist
    have hnumbers := List.map_eq_nil_iff.1 hlist
    exact .inr ⟨hnumbers, take_of_allocate htake hnumbers⟩
  · have hnumbers := h.numbers_eq_nil hover
    exact .inr ⟨hnumbers, take_of_allocate htake hnumbers⟩

/-- A request does to the arena what it does without numbers. -/
theorem Sound.arena_take (h : s.Sound limits) (class_ : SizeClass) :
    (s.take class_).arena = (Arena.take class_ s.arena).2 := by
  rcases h.take_cases class_ with ⟨_, _, -, -, htake, heq⟩ | ⟨-, ⟨_, htake, heq⟩ | ⟨_, htake, heq⟩⟩
  · rw [htake, heq]
  · rw [htake, heq]
    rfl
  · rw [htake, heq]

end Take

/-- **Requests** keep what every operation keeps. -/
theorem Sound.take (h : s.Sound limits) (class_ : SizeClass) : (s.take class_).Sound limits := by
  have hcounted : Sound limits { s with arena := s.arena.countFresh } :=
    ⟨h.pooled.counters _, h.lists_eq, h.nodup, h.lt_made⟩
  rcases h.take_cases class_ with
    ⟨number, rest, hmax, hnumbers, htake, heq⟩ | ⟨-, ⟨buffer, -, heq⟩ | ⟨panic, -, heq⟩⟩
  · have hpooled := h.pooled.take class_
    rw [htake] at hpooled
    have hpop := h.pop_perm hmax hnumbers
    -- The number is gone from the lists, so what the buffer is cleared to does not show on them.
    have hgone : number ∉ (s.setNumbers (s.arena.serving class_) rest).flatten :=
      (List.nodup_cons.1 (hpop.nodup_iff.1 (List.nodup_append.1 h.nodup).1)).1
    rw [heq]
    refine h.of_subperm hpooled ?_ (List.Perm.subperm ?_) rfl
    · show s.arena.lists.set _ _ =
        (s.setNumbers _ rest).map (List.map (Function.update s.buffers number _))
      rw [map_map_update_of_notMem hgone, setNumbers, List.map_set, ← h.lists_eq]
    · show ((s.setNumbers _ rest).flatten ++ number :: s.held).Perm (s.kept.flatten ++ s.held)
      exact List.perm_middle.trans (hpop.append_right s.held).symm
  · rw [heq]
    exact hcounted.receive buffer
  · rw [heq]
    exact hcounted

/-- A buffer that is accepted goes to the front of a free list, and is cleared. -/
theorem release_of_some (h : s.arena.accepting? (s.buffers number) = some shift) :
    s.release number =
      { s with
        arena := (Arena.release (s.buffers number) s.arena).2
        buffers := Function.update s.buffers number (s.buffers number).clear
        kept := s.setNumbers shift (number :: s.numbers shift)
        held := s.held.erase number } := by
  simp only [Circulation.release, h]

theorem release_of_none (h : s.arena.accepting? (s.buffers number) = none) :
    s.release number =
      { s with
        arena := (Arena.release (s.buffers number) s.arena).2
        held := s.held.erase number } := by
  simp only [Circulation.release, h]

/-- **A return** moves the number of the buffer to the list that accepts it, if there is one. -/
theorem Sound.release (h : s.Sound limits) (hheld : number ∈ s.held) :
    (s.release number).Sound limits := by
  have hpooled := h.pooled.release (s.buffers number)
  cases haccepting : s.arena.accepting? (s.buffers number) with
  | none =>
    rw [release_of_none haccepting]
    refine h.of_subperm hpooled ?_ ((List.erase_sublist ..).append_left _).subperm rfl
    rw [Arena.release_of_none haccepting]
    exact h.lists_eq
  | some shift =>
    obtain ⟨⟨-, hmax⟩, -, -⟩ := Arena.accepting?_eq_some_iff.1 haccepting
    have hkept := h.notMem_kept hheld
    rw [release_of_some haccepting]
    refine h.of_subperm hpooled ?_ (List.Perm.subperm ?_) rfl
    · rw [Arena.release_of_some haccepting]
      show s.arena.lists.set _ ((s.buffers number).clear :: s.arena.list shift) =
        (s.kept.set _ (number :: s.numbers shift)).map (List.map (Function.update s.buffers number _))
      -- The number was on no list, so clearing its buffer changes the new entry only.
      have hold : number ∉ s.numbers shift := fun hmem ↦ hkept (h.mem_flatten hmax hmem)
      rw [List.map_set, map_map_update_of_notMem hkept, ← h.lists_eq, List.map_cons,
        Function.update_self, map_update_of_notMem hold, h.list_eq]
    · have hpush := h.push_perm hmax number
      show ((s.setNumbers shift (number :: s.numbers shift)).flatten ++ s.held.erase number).Perm
        (s.kept.flatten ++ s.held)
      exact ((hpush.append_right _).trans List.perm_middle.symm).trans
        ((List.perm_cons_erase hheld).symm.append_left _)

/-- **Every operation keeps buffers in one place**. -/
theorem Sound.step (h : s.Sound limits) (op : CirculationOp) : (s.step op).Sound limits := by
  cases op with
  | take class_ => exact h.take class_
  | takeFor capacity => exact h.take _
  | bring buffer => exact h.receive buffer
  | change number buffer =>
    show (if number ∈ s.held then _ else s).Sound limits
    split
    · next hheld =>
      -- What is held is on no list, so the lists do not notice.
      refine ⟨h.pooled, ?_, h.nodup, h.lt_made⟩
      show s.arena.lists = s.kept.map (List.map (Function.update s.buffers number buffer))
      rw [map_map_update_of_notMem (h.notMem_kept hheld), h.lists_eq]
    · exact h
  | release number =>
    show (if number ∈ s.held then s.release number else s).Sound limits
    split
    · next hheld => exact h.release hheld
    · exact h
  | drop number =>
    exact h.of_subperm h.pooled h.lists_eq ((List.erase_sublist ..).append_left _).subperm rfl
  | shrink =>
    refine h.of_subperm h.pooled.shrink ?_ (List.Sublist.subperm ?_) rfl
    · show s.arena.lists.map (fun _ ↦ []) = (s.kept.map fun _ ↦ []).map (List.map s.buffers)
      rw [h.lists_eq, List.map_map, List.map_map]
      rfl
    · show ((s.kept.map fun _ ↦ []).flatten ++ s.held).Sublist s.all
      rw [Arena.flatten_map_nil]
      exact List.sublist_append_right ..

theorem flatten_kept_new (limits : ArenaLimits) : (Circulation.new limits).kept.flatten = [] :=
  List.flatten_replicate_nil

theorem sound_new (limits : ArenaLimits) : (Circulation.new limits).Sound limits := by
  have hall : (Circulation.new limits).all = [] := by rw [all, flatten_kept_new]; rfl
  refine ⟨Arena.pooled_new limits, ?_, hall ▸ .nil, hall ▸ nofun⟩
  show List.replicate _ [] = (List.replicate _ []).map _
  rw [List.map_replicate]
  rfl

/-- So does every history, by induction over the operations. -/
theorem Sound.run (h : s.Sound limits) (ops : List CirculationOp) : (s.run ops).Sound limits := by
  induction ops generalizing s with
  | nil => exact h
  | cons op ops ih => exact ih (h.step op)

end Sound

/-! ### The main result -/

/-- A request was answered with a buffer that is empty and large enough. The user holds it afterwards,
and no free list has it. -/
def Served (s after : Circulation) (answer : Except Panic Scratch) (capacity : Nat) : Prop :=
  ∃ number buffer, answer = .ok buffer ∧ buffer.bytes = [] ∧ capacity ≤ buffer.capacity ∧
    after.held = number :: s.held ∧ after.buffers number = buffer ∧ number ∉ after.kept.flatten

/-- A request that is answered with a good buffer hands it to its user alone. -/
theorem Sound.served_take {limits : ArenaLimits} {s : Circulation} {class_ : SizeClass} {capacity : Nat}
    (h : s.Sound limits) (hok : ∃ buffer, (Arena.take class_ s.arena).1 = .ok buffer ∧
      buffer.bytes = [] ∧ capacity ≤ buffer.capacity) :
    Served s (s.take class_) (Arena.take class_ s.arena).1 capacity := by
  obtain ⟨buffer, hanswer, hempty, hcapacity⟩ := hok
  obtain ⟨number, hheld, hbuffer⟩ := held_take hanswer
  exact ⟨number, buffer, hanswer, hempty, hcapacity, hheld, hbuffer,
    (h.take class_).notMem_kept (hheld ▸ List.mem_cons_self)⟩

/-- What can be relied on when operations on a new arena with these limits have led to this. -/
structure Serves (limits : ArenaLimits) (s : Circulation) : Prop where
  /-- The pooled classes are those between the two limits, rounded up. -/
  minShift_eq : s.arena.minShift = (SizeClass.forCapacity limits.minClassBytes).shift
  maxShift_eq : s.arena.maxShift =
    (SizeClass.forCapacity (max limits.maxClassBytes limits.minClassBytes)).shift
  /-- The largest is not below the smallest, and each has a free list. -/
  minShift_le : s.arena.minShift ≤ s.arena.maxShift
  length_eq : s.arena.lists.length = s.arena.maxShift - s.arena.minShift + 1
  /-- A free list has so many buffers at most, which are empty and of its class. -/
  free : ∀ shift, s.arena.minShift ≤ shift → shift ≤ s.arena.maxShift →
    (s.arena.list shift).length ≤ limits.maxBuffersPerClass ∧
      ∀ buffer ∈ s.arena.list shift,
        buffer.bytes = [] ∧ 2 ^ shift ≤ buffer.capacity ∧ buffer.capacity < 2 ^ (shift + 1)
  /-- Requests are served, unless only the largest class is pooled. -/
  take : limits.minClassBytes ≤ 2 ^ 62 → ∀ class_, class_.bytes ≤ 2 ^ 62 →
    Served s (s.step (.take class_)) (Arena.take class_ s.arena).1 class_.bytes
  takeFor : limits.minClassBytes ≤ 2 ^ 62 → ∀ capacity ≤ 2 ^ 62,
    Served s (s.step (.takeFor capacity)) (Arena.takeFor capacity s.arena).1 capacity
  /-- A buffer is accepted when its capacity, rounded down, is that of a pooled class whose list is not
  full. -/
  release : ∀ buffer, (Arena.release buffer s.arena).1 = true ↔
    ∃ shift, (s.arena.minShift ≤ shift ∧ shift ≤ s.arena.maxShift) ∧
      (2 ^ shift ≤ buffer.capacity ∧ buffer.capacity < 2 ^ (shift + 1)) ∧
      (s.arena.list shift).length < limits.maxBuffersPerClass
  /-- The numbers on the free lists are those of the buffers on them. -/
  lists_eq : s.arena.lists = s.kept.map (List.map s.buffers)
  /-- No buffer is on two free lists, held twice, or held while it is on a free list. -/
  apart : (s.kept.flatten ++ s.held).Nodup

/-- **Arenas serve their users**, whatever the limits and whatever the users do. -/
theorem serves_run (limits : ArenaLimits) (ops : List CirculationOp) :
    Serves limits ((Circulation.new limits).run ops) := by
  have hsound := (sound_new limits).run ops
  have hpooled := hsound.pooled
  exact
    { minShift_eq := hpooled.minShift_eq
      maxShift_eq := hpooled.maxShift_eq
      minShift_le := hpooled.minShift_le
      length_eq := hpooled.length_eq
      free := fun shift hmin hmax ↦ ⟨hpooled.length_le shift hmin hmax, fun buffer hmem ↦
        have hspare := hpooled.spare shift hmin hmax buffer hmem
        ⟨hspare.empty, hspare.le_capacity, hspare.capacity_lt⟩⟩
      take := fun hlimit _ hclass ↦ hsound.served_take (hpooled.take_ok hlimit hclass)
      takeFor := fun hlimit _ hcapacity ↦ hsound.served_take (hpooled.takeFor_ok hlimit hcapacity)
      release := fun buffer ↦ hpooled.release_iff buffer
      lists_eq := hsound.lists_eq
      apart := hsound.nodup }

end Circulation

end Conduit
