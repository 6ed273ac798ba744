import Conduit.Proofs.Buffer.Shelf

/-!
# The search of a buffer by positions

The search hands on what is left of the fragments and of the needle, so most of its positions do not show.
Here the same walk is told by positions alone (`Buffer.walk`): fragments go by their numbers, bytes by
their offsets in a fragment, what is compared is cut out of the fragments and the needle, and every
difference and every cut is checked. It comes to what the search comes to (`walk_eq_search`), also where a
check fails, so that a search that never fails has taken no position out of its range.

The main statement is `Shelf.walks_run`: that is how it is for every buffer that operations can make, and
the answer is the first occurrence.
-/

namespace Conduit.Buffer

/-! ### The walk -/

/-- What is left of a list from a position on. -/
def cutFrom {α : Type} (list : List α) (start : Nat) : Except RangeFault (List α) :=
  if start ≤ list.length then .ok (list.drop start) else .error (.slice start list.length)

/-- The beginning of a list up to a position. -/
def cutTo {α : Type} (list : List α) (stop : Nat) : Except RangeFault (List α) :=
  if stop ≤ list.length then .ok (list.take stop) else .error (.slice stop list.length)

/-- The number of the fragment that holds `offset`, and the offset at which it starts. The fragments
before `stop` are given last to first. -/
def locateBack (offset : Nat) : List Bytes → Nat → Except RangeFault (Nat × Nat)
  | [], _ => .ok (0, 0)
  | fragment :: earlier, stop => do
    let base ← difference stop fragment.length
    if base ≤ offset then return (earlier.length, base)
    locateBack offset earlier base

/-- Compares the needle with the fragments, from an offset in the first of them on. -/
def compareAt : List Bytes → Nat → Bytes → Except RangeFault Bool
  | [], _, _ => .ok false
  | fragment :: later, offset, needle => do
    let available ← cutFrom fragment offset
    let count := min available.length needle.length
    if (← cutTo available count) ≠ (← cutTo needle count) then return false
    let rest ← cutFrom needle count
    if rest.isEmpty then return true
    compareAt later 0 rest

/-- Whether the needle stands at an offset in the fragment of the given number. -/
def matchesAt (buffer : Buffer) (index offset : Nat) (needle : Bytes) : Except RangeFault Bool := do
  compareAt (← cutFrom buffer.fragments index) offset needle

/-- Goes from one place of the needle's first byte to the next, in the fragment of the given number, which
begins at `base`. -/
def tryHits (buffer : Buffer) (first : UInt8) (needle : Bytes) (lastStart index base : Nat)
    (fragment : Bytes) (offset : Nat) : Except RangeFault Scan :=
  if offset ≤ fragment.length then
    match hhit : (fragment.drop offset).findIdx? (· == first) with
    | none => .ok .absent
    | some hit =>
      if lastStart < base + offset + hit then .ok .exhausted
      else do
        if ← buffer.matchesAt index (offset + hit) needle then return .found (base + offset + hit)
        tryHits buffer first needle lastStart index base fragment (offset + hit + 1)
  else .error (.slice offset fragment.length)
termination_by fragment.length - offset
decreasing_by
  have hlt := (List.findIdx?_eq_some_iff_findIdx_eq.1 hhit).1
  rw [List.length_drop] at hlt
  omega

/-- Goes from one fragment to the next, the first of which has the given number and begins at `base`. -/
def walkFrom (buffer : Buffer) (first : UInt8) (needle : Bytes) (lastStart start : Nat) :
    List Bytes → Nat → Nat → Except RangeFault (Option Nat)
  | [], _, _ => .ok none
  | fragment :: later, index, base => do
    match ← buffer.tryHits first needle lastStart index base fragment (start - base) with
    | .found offset => return some offset
    | .exhausted => return none
    | .absent => walkFrom buffer first needle lastStart start later (index + 1) (base + fragment.length)

/-- The search, told by positions. -/
def walk (buffer : Buffer) (needle : Bytes) (start : Nat) : Except RangeFault (Option Nat) :=
  match needle with
  | [] => .ok (if start ≤ buffer.length then some start else none)
  | first :: _ =>
    if buffer.length - start < needle.length then .ok none
    else do
      let lastStart ← difference buffer.length needle.length
      let (index, base) ← locateBack start buffer.fragments.reverse buffer.length
      buffer.walkFrom first needle lastStart start (← cutFrom buffer.fragments index) index base

/-! ### It comes to what the search comes to -/

theorem cutFrom_of_le {α : Type} {list : List α} {start : Nat} (h : start ≤ list.length) :
    cutFrom list start = .ok (list.drop start) :=
  if_pos h

theorem cutTo_of_le {α : Type} {list : List α} {stop : Nat} (h : stop ≤ list.length) :
    cutTo list stop = .ok (list.take stop) :=
  if_pos h

/-- Matching byte by byte is comparing as much as there is on both sides. -/
theorem matchFront_eq (bytes needle : Bytes) :
    matchFront bytes needle =
      let count := min bytes.length needle.length
      if bytes.take count = needle.take count then some (needle.drop count) else none := by
  induction bytes generalizing needle with
  | nil => cases needle <;> simp [matchFront]
  | cons byte bytes ih =>
    cases needle with
    | nil => simp [matchFront]
    | cons first needle =>
      rw [matchFront, ih, List.length_cons, List.length_cons, Nat.add_min_add_right]
      by_cases heq : byte = first
      · simp [heq]
      · simp [heq]

/-- One fragment is compared by matching what is left of it, and the comparison goes on behind it. -/
theorem compareAt_cons {fragment : Bytes} {offset : Nat} (h : offset ≤ fragment.length)
    (later : List Bytes) (needle : Bytes) :
    compareAt (fragment :: later) offset needle =
      match matchFront (fragment.drop offset) needle with
      | none => .ok false
      | some [] => .ok true
      | some rest => compareAt later 0 rest := by
  rw [compareAt, cutFrom_of_le h, matchFront_eq]
  generalize fragment.drop offset = available
  have havailable := cutTo_of_le (Nat.min_le_left available.length needle.length)
  have hwanted := cutTo_of_le (Nat.min_le_right available.length needle.length)
  have hrest := cutFrom_of_le (Nat.min_le_right available.length needle.length)
  simp only [bind, Except.bind, havailable, hwanted, hrest]
  by_cases heq : available.take (min available.length needle.length) =
      needle.take (min available.length needle.length)
  · rw [if_neg (not_not_intro heq), if_pos heq]
    cases needle.drop (min available.length needle.length) <;> rfl
  · rw [if_pos heq, if_neg heq]
    rfl

/-- The comparison reads through the cuts, as matching does. -/
theorem compareAt_eq_ok {fragment : Bytes} {offset : Nat} (h : offset ≤ fragment.length)
    (later : List Bytes) {needle : Bytes} (hne : needle ≠ []) :
    compareAt (fragment :: later) offset needle =
      .ok (startsWith (fragment.drop offset :: later) needle) := by
  induction later generalizing fragment offset needle with
  | nil =>
    rw [compareAt_cons h, startsWith]
    rcases matchFront (fragment.drop offset) needle with - | ⟨- | ⟨first, rest⟩⟩ <;> rfl
  | cons next later ih =>
    rw [compareAt_cons h, startsWith]
    rcases matchFront (fragment.drop offset) needle with - | ⟨- | ⟨first, rest⟩⟩
    · rfl
    · rfl
    · exact ih (Nat.zero_le _) (List.cons_ne_nil first rest)

theorem matchesAt_eq_ok {buffer : Buffer} {index offset : Nat} {fragment : Bytes} {later : List Bytes}
    (hfragments : buffer.fragments.drop index = fragment :: later) (hoffset : offset ≤ fragment.length)
    {needle : Bytes} (hne : needle ≠ []) :
    buffer.matchesAt index offset needle = .ok (startsWith (fragment.drop offset :: later) needle) := by
  have hindex : index ≤ buffer.fragments.length := by
    by_contra hlt
    rw [List.drop_eq_nil_of_le (by omega)] at hfragments
    contradiction
  rw [matchesAt, cutFrom_of_le hindex, hfragments]
  exact compareAt_eq_ok hoffset later hne

/-! ### The places of the first byte -/

section Scan

variable {first : UInt8} {needle : Bytes} {lastStart : Nat} {later : List Bytes} {bytes : Bytes}
  {start : Nat}

/-- Without the first byte of the needle there is no hit. -/
theorem scan_of_findIdx?_eq_none (h : bytes.findIdx? (· == first) = none) :
    scan first needle lastStart later bytes start = .absent := by
  induction bytes generalizing start with
  | nil => rfl
  | cons byte bytes ih =>
    obtain ⟨hbyte, hbytes⟩ := List.forall_mem_cons.1 (List.findIdx?_eq_none_iff.1 h)
    rw [scan, if_neg (beq_eq_false_iff_ne.1 hbyte), ih (List.findIdx?_eq_none_iff.2 hbytes)]

/-- What stands before the first byte of the needle is passed over. -/
theorem scan_of_findIdx?_eq_some {hit : Nat} (h : bytes.findIdx? (· == first) = some hit) :
    scan first needle lastStart later bytes start =
      if lastStart < start + hit then .exhausted
      else if startsWith (bytes.drop hit :: later) needle then .found (start + hit)
      else scan first needle lastStart later (bytes.drop (hit + 1)) (start + hit + 1) := by
  induction bytes generalizing start hit with
  | nil => contradiction
  | cons byte bytes ih =>
    rw [List.findIdx?_cons] at h
    by_cases hbyte : byte = first
    · obtain rfl : 0 = hit := by simpa [hbyte] using h
      rw [scan, if_pos hbyte]
      rfl
    · rw [if_neg (by simpa using hbyte)] at h
      obtain ⟨hit, hrest, rfl⟩ := Option.map_eq_some_iff.1 h
      rw [scan, if_neg hbyte, ih hrest, show start + 1 + hit = start + (hit + 1) by omega]
      rfl

end Scan

/-- Going from hit to hit is scanning the fragment, when its number and its offset are those of what is
scanned. -/
theorem tryHits_eq_ok {buffer : Buffer} {index offset : Nat} {fragment : Bytes} {later : List Bytes}
    (hfragments : buffer.fragments.drop index = fragment :: later) (hoffset : offset ≤ fragment.length)
    (first : UInt8) {needle : Bytes} (hne : needle ≠ []) (lastStart base : Nat) :
    buffer.tryHits first needle lastStart index base fragment offset =
      .ok (scan first needle lastStart later (fragment.drop offset) (base + offset)) := by
  -- By induction on what is left of the fragment: behind a hit there is less.
  induction hleft : fragment.length - offset using Nat.strong_induction_on generalizing offset with
  | _ left ih =>
    rw [tryHits, if_pos hoffset]
    split
    · next hhit => rw [scan_of_findIdx?_eq_none hhit]
    · next hit hhit =>
      have hwithin : hit < (fragment.drop offset).length :=
        (List.findIdx?_eq_some_iff_findIdx_eq.1 hhit).1
      rw [List.length_drop] at hwithin
      have hmatches := matchesAt_eq_ok hfragments (show offset + hit ≤ fragment.length by omega) hne
      have hrest := ih _ (by omega) (show offset + hit + 1 ≤ fragment.length by omega) rfl
      rw [← Nat.add_assoc, ← Nat.add_assoc] at hrest
      rw [scan_of_findIdx?_eq_some hhit, List.drop_drop, List.drop_drop]
      simp only [hmatches, hrest, bind, Except.bind]
      split_ifs <;> rfl

/-- Going from fragment to fragment is scanning one after another, when the numbers fit. -/
theorem walkFrom_eq_scanAll {buffer : Buffer} {fragments : List Bytes} {index : Nat}
    (h : buffer.fragments.drop index = fragments) (first : UInt8) {needle : Bytes} (hne : needle ≠ [])
    (lastStart start base : Nat) :
    buffer.walkFrom first needle lastStart start fragments index base =
      scanAll first needle lastStart start fragments base := by
  induction fragments generalizing index base with
  | nil => rfl
  | cons fragment later ih =>
    have hlater : buffer.fragments.drop (index + 1) = later := by
      rw [← List.drop_drop, h]
      rfl
    rw [walkFrom, scanAll, ih hlater]
    by_cases hstart : start - base ≤ fragment.length
    · rw [tryHits_eq_ok h hstart first hne, sliceFrom_of_le hstart,
        show base + (start - base) = max base start by omega]
      rfl
    · rw [tryHits, if_neg hstart, sliceFrom, if_neg hstart]
      rfl

/-- The number of a fragment says which fragments there are from it on. -/
theorem locate_eq_map_locateBack (offset : Nat) (earlier : List Bytes) (stop : Nat)
    (later : List Bytes) :
    locate offset earlier stop later =
      (locateBack offset earlier stop).map fun found ↦
        ((earlier.reverse ++ later).drop found.1, found.2) := by
  induction earlier generalizing stop later with
  | nil => rfl
  | cons fragment earlier ih =>
    rw [locate, locateBack]
    cases difference stop fragment.length with
    | error fault => rfl
    | ok base =>
      simp only [bind, Except.bind]
      split
      · simp [Except.map, pure, Except.pure]
      · rw [ih]
        simp

/-- The fragment that is located is one of those that there are. -/
theorem locateBack_le {offset : Nat} {earlier : List Bytes} {stop : Nat} {found : Nat × Nat}
    (h : locateBack offset earlier stop = .ok found) : found.1 ≤ earlier.length := by
  induction earlier generalizing stop with
  | nil =>
    obtain rfl := Except.ok.inj h
    exact Nat.zero_le _
  | cons fragment earlier ih =>
    rw [locateBack] at h
    cases hbase : difference stop fragment.length with
    | error fault =>
      rw [hbase] at h
      contradiction
    | ok base =>
      simp only [hbase, bind, Except.bind] at h
      split at h
      · obtain rfl := Except.ok.inj h
        simp
      · exact (ih h).trans (Nat.le_succ _)

/-- **The search takes the positions of the walk**, and fails where a check fails. -/
theorem walk_eq_search (buffer : Buffer) (needle : Bytes) (start : Nat) :
    buffer.walk needle start = buffer.search needle start := by
  cases needle with
  | nil => rfl
  | cons first needle =>
    rw [walk, search, locate_eq_map_locateBack, List.reverse_reverse, List.append_nil]
    split
    · rfl
    · cases difference buffer.length (first :: needle).length with
      | error fault => rfl
      | ok lastStart =>
        cases hfound : locateBack start buffer.fragments.reverse buffer.length with
        | error fault => rfl
        | ok found =>
          have hindex : found.1 ≤ buffer.fragments.length := by
            simpa using locateBack_le hfound
          simp only [bind, Except.bind, Except.map, cutFrom_of_le hindex]
          exact walkFrom_eq_scanAll rfl first (List.cons_ne_nil first needle) lastStart start found.2

/-! ### What is found -/

/-- An occurrence is what a cut of the needle's length shows. -/
theorem occursAt_iff_take_eq {content needle : Bytes} {offset : Nat} :
    OccursAt content needle offset ↔
      offset ≤ content.length ∧ (content.drop offset).take needle.length = needle := by
  rw [OccursAt, List.prefix_iff_eq_take, eq_comm]

/-- What a search for a needle from an offset on comes to. -/
structure Walks (buffer : Buffer) (needle : Bytes) (start : Nat) : Prop where
  /-- No number of a fragment, no offset and no difference leaves its range on the way. -/
  walk_eq : buffer.walk needle start = .ok (buffer.findFrom? needle start)
  /-- What is found is the least offset at which the needle stands. -/
  eq_some_iff : ∀ offset, buffer.findFrom? needle start = some offset ↔
    IsLeast {found | start ≤ found ∧ found ≤ buffer.length ∧
      (buffer.toBytes.drop found).take needle.length = needle} offset
  /-- Nothing is found only where the needle does not stand. -/
  eq_none_iff : buffer.findFrom? needle start = none ↔
    ∀ found, start ≤ found → found ≤ buffer.length →
      (buffer.toBytes.drop found).take needle.length ≠ needle
  /-- The needle without bytes stands everywhere, also at the end. -/
  nil : needle = [] →
    buffer.findFrom? needle start = if start ≤ buffer.length then some start else none

/-- Both ways of telling the search agree on a buffer that is sound. -/
theorem Sound.walks {buffer : Buffer} (h : buffer.Sound) (needle : Bytes) (start : Nat) :
    buffer.Walks needle start := by
  obtain ⟨answer, hsearch, hfirst⟩ := search_eq_ok h needle start
  have hanswer : buffer.findFrom? needle start = answer := by
    rw [findFrom?, hsearch]
    rfl
  have hoccurs : ∀ offset, OccursAt buffer.toBytes needle offset ↔
      offset ≤ buffer.length ∧ (buffer.toBytes.drop offset).take needle.length = needle := by
    intro offset
    rw [occursAt_iff_take_eq, h.length_toBytes]
  refine ⟨by rw [walk_eq_search, hsearch, hanswer], fun offset ↦ ?_, ?_, ?_⟩
  · rw [hanswer]
    constructor
    · rintro rfl
      obtain ⟨hstart, hfound, hleast⟩ := hfirst
      refine ⟨⟨hstart, (hoccurs offset).1 hfound⟩, fun other hother ↦ ?_⟩
      by_contra hlt
      exact hleast other hother.1 (Nat.lt_of_not_le hlt) ((hoccurs other).2 hother.2)
    · rintro ⟨⟨hstart, hfound⟩, hleast⟩
      refine hfirst.eq ⟨hstart, (hoccurs offset).2 hfound, fun earlier hfrom hlt hearlier ↦ ?_⟩
      exact absurd (hleast ⟨hfrom, (hoccurs earlier).1 hearlier⟩) (Nat.not_le.2 hlt)
  · rw [hanswer]
    constructor
    · rintro rfl found hstart hfound heq
      exact hfirst found hstart ((hoccurs found).2 ⟨hfound, heq⟩)
    · intro hnone
      refine hfirst.eq fun found hstart hfound ↦ ?_
      obtain ⟨hle, heq⟩ := (hoccurs found).1 hfound
      exact hnone found hstart hle heq
  · rintro rfl
    rw [hanswer]
    exact (Except.ok.inj hsearch).symm

end Conduit.Buffer

namespace Conduit.Shelf

open Buffer ByteStore

/-- **The search finds the first occurrence, and stays in its ranges.** So it is for every buffer that
operations on buffers have made, and two of them with one content answer alike, however they are cut. -/
theorem walks_run (ops : List ShelfOp) (place : Nat) (needle : Bytes) (start : Nat) :
    let buffer := (buffers.run (fun _ ↦ buffers.empty) ops).shelf place
    buffer.Walks needle start ∧
      ∀ others other, let same := (buffers.run (fun _ ↦ buffers.empty) others).shelf other
        same.toBytes = buffer.toBytes → same.findFrom? needle start = buffer.findFrom? needle start := by
  have hsound : ∀ ops place, ((buffers.run (fun _ ↦ buffers.empty) ops).shelf place).Sound := by
    intro ops place
    have hempty : Holds (fun _ ↦ buffers.empty) (fun _ ↦ strings.empty) := fun _ ↦ ⟨.empty, rfl⟩
    exact ((hempty.run ops).2 place).1
  refine ⟨(hsound ops place).walks needle start, fun others other hsame ↦ ?_⟩
  rw [(hsound others other).findFrom?_eq, (hsound ops place).findFrom?_eq, hsame]

end Conduit.Shelf
