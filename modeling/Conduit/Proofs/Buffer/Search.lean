import Conduit.Buffer.Search

/-!
# The search of a buffer finds the first occurrence

A needle occurs at an offset when it is a prefix of what is left of the content there. The main
statement is `search_eq_ok`: on a sound buffer the search never leaves its ranges, and its answer is
the least occurrence at the given offset or later (`IsFirstOccurrence`). It rests on three facts,
one for each part of the search:

* `matchFront` and `startsWith` decide whether the needle is a prefix of the joined fragments, which
  is a fact about the content and not about its cuts;
* `locate` gives the fragments from the one that holds the offset on, so what is left of the content
  at its base is their concatenation;
* `scan` and `scanAll` keep the position in step with the bytes still to be looked at
  (`content.drop position`), so every start they pass over is a start where the needle does not
  occur.
-/

namespace Conduit.Buffer

/-- The needle stands in the content at an offset. -/
def OccursAt (content needle : Bytes) (offset : Nat) : Prop :=
  offset ≤ content.length ∧ needle <+: content.drop offset

/-- The answer is the least offset from `start` on where the needle stands, if there is one. -/
def IsFirstOccurrence (content needle : Bytes) (start : Nat) : Option Nat → Prop
  | some offset => start ≤ offset ∧ OccursAt content needle offset ∧
      ∀ earlier, start ≤ earlier → earlier < offset → ¬ OccursAt content needle earlier
  | none => ∀ offset, start ≤ offset → ¬ OccursAt content needle offset

/-- A needle that stands in the content ends within it. -/
theorem OccursAt.add_length_le {content needle : Bytes} {offset : Nat}
    (h : OccursAt content needle offset) : offset + needle.length ≤ content.length := by
  have hlength := h.2.length_le
  rw [List.length_drop] at hlength
  have := h.1
  omega

/-- A needle that begins with a byte stands only where that byte stands. -/
theorem not_occursAt_of_ne {content needle bytes : Bytes} {byte first : UInt8} {offset : Nat}
    (hcontent : content.drop offset = byte :: bytes) (hne : byte ≠ first) :
    ¬ OccursAt content (first :: needle) offset := by
  rintro ⟨-, hbegins⟩
  rw [hcontent, List.cons_prefix_cons] at hbegins
  exact hne hbegins.1.symm

/-- An infix is an occurrence at some offset. -/
theorem infix_iff_exists_occursAt {content needle : Bytes} :
    needle <:+: content ↔ ∃ offset, OccursAt content needle offset := by
  constructor
  · rintro ⟨before, after, rfl⟩
    refine ⟨before.length, by simp, ?_⟩
    rw [List.append_assoc, List.drop_left]
    exact List.prefix_append _ _
  · rintro ⟨offset, -, hbegins⟩
    exact hbegins.isInfix.trans (List.drop_suffix offset content).isInfix

/-- An occurrence that ends within the first bytes is one in these bytes alone. -/
theorem OccursAt.take {content needle : Bytes} {offset count : Nat}
    (h : OccursAt content needle offset) (hend : offset + needle.length ≤ count) :
    OccursAt (content.take count) needle offset := by
  have hlength := h.add_length_le
  refine ⟨by rw [List.length_take]; omega, ?_⟩
  rw [List.drop_take]
  exact (List.prefix_take_iff).2 ⟨h.2, by omega⟩

/-! ### Matching at one offset -/

/-- A byte that differs cannot be made up for by what follows. -/
theorem not_prefix_of_matchFront_eq_none {bytes needle : Bytes}
    (h : matchFront bytes needle = none) (more : Bytes) : ¬ needle <+: bytes ++ more := by
  induction bytes generalizing needle with
  | nil => cases needle <;> simp [matchFront] at h
  | cons byte bytes ih =>
    cases needle with
    | nil => simp [matchFront] at h
    | cons first needle =>
      rw [matchFront] at h
      rw [List.cons_append, List.cons_prefix_cons]
      rintro ⟨rfl, hbegins⟩
      rw [if_pos rfl] at h
      exact ih h hbegins

/-- When all bytes match, what is left of the needle has to follow. -/
theorem prefix_append_iff_of_matchFront_eq_some {bytes needle left : Bytes}
    (h : matchFront bytes needle = some left) (more : Bytes) :
    needle <+: bytes ++ more ↔ left <+: more := by
  induction bytes generalizing needle with
  | nil =>
    have hleft : needle = left := by cases needle <;> simpa [matchFront] using h
    rw [hleft, List.nil_append]
  | cons byte bytes ih =>
    cases needle with
    | nil =>
      have hleft : left = [] := by simpa [matchFront] using h.symm
      simp [hleft]
    | cons first needle =>
      rw [matchFront] at h
      by_cases heq : byte = first
      · rw [if_pos heq] at h
        rw [List.cons_append, List.cons_prefix_cons, ih h]
        exact and_iff_right heq.symm
      · rw [if_neg heq] at h
        contradiction

/-- **Matching reads through the cuts.** The needle stands at the front of the fragments exactly
when it is a prefix of their concatenation. -/
theorem startsWith_iff {fragments : List Bytes} {needle : Bytes} :
    startsWith fragments needle = true ↔ needle <+: fragments.flatten := by
  induction fragments generalizing needle with
  | nil => simp [startsWith]
  | cons fragment rest ih =>
    rw [List.flatten_cons, startsWith]
    cases hmatch : matchFront fragment needle with
    | none => simpa using not_prefix_of_matchFront_eq_none hmatch rest.flatten
    | some left =>
      rw [prefix_append_iff_of_matchFront_eq_some hmatch]
      cases left with
      | nil => simp
      | cons first left => exact ih

/-! ### The fragment that holds an offset -/

theorem difference_of_le {m n : Nat} (h : n ≤ m) : difference m n = .ok (m - n) :=
  if_pos h

theorem sliceFrom_of_le {fragment : Bytes} {start : Nat} (h : start ≤ fragment.length) :
    sliceFrom fragment start = .ok (fragment.drop start) :=
  if_pos h

/-- The fragments `fragments` begin at the offset `base` of the content, and the first of them
reaches to `offset`. -/
structure Located (content : Bytes) (offset : Nat) (fragments : List Bytes) (base : Nat) :
    Prop where
  drop_base : content.drop base = fragments.flatten
  base_le : base ≤ offset
  reaches : ∀ fragment ∈ fragments.head?, offset ≤ base + fragment.length

/-- The walk from the back stops at the fragment that holds the offset, and takes no difference that
is too large: `stop` is the length of what is still before it. -/
theorem locate_eq_ok {offset : Nat} {earlier : List Bytes} {stop : Nat} (later : List Bytes)
    (hstop : stop = earlier.reverse.flatten.length) (hoffset : offset < stop) :
    ∃ fragments base, locate offset earlier stop later = .ok (fragments, base) ∧
      Located (earlier.reverse.flatten ++ later.flatten) offset fragments base := by
  induction earlier generalizing stop later with
  | nil =>
    rw [hstop] at hoffset
    simp at hoffset
  | cons fragment earlier ih =>
    have hsum : stop = earlier.reverse.flatten.length + fragment.length := by
      rw [hstop]
      simp
    -- The walk moves the fragment to the other side, so the content stays the same.
    have hcontent : (fragment :: earlier).reverse.flatten ++ later.flatten =
        earlier.reverse.flatten ++ (fragment :: later).flatten := by
      simp
    have hlocate : locate offset (fragment :: earlier) stop later =
        if stop - fragment.length ≤ offset then
          .ok (fragment :: later, stop - fragment.length)
        else locate offset earlier (stop - fragment.length) (fragment :: later) := by
      rw [locate, difference_of_le (by omega)]
      rfl
    rw [hlocate, hcontent]
    split
    · next hle =>
      refine ⟨fragment :: later, stop - fragment.length, rfl, ?_, hle, ?_⟩
      · rw [show stop - fragment.length = earlier.reverse.flatten.length by omega, List.drop_left]
      · intro f hf
        obtain rfl : fragment = f := by simpa using hf
        omega
    · next hlt => exact ih (fragment :: later) (by omega) (by omega)

/-! ### Trying the starts in turn -/

/-- What the scan of one fragment says of the offsets from `start` to the end of the fragment. -/
def ScanSays (content needle : Bytes) (start count : Nat) : Scan → Prop
  | .found offset => IsFirstOccurrence content needle start (some offset)
  | .exhausted => IsFirstOccurrence content needle start none
  | .absent => ∀ offset, start ≤ offset → offset < start + count →
      ¬ OccursAt content needle offset

/-- A start where the needle does not stand may be left out of what a scan says. -/
theorem ScanSays.of_succ {content needle : Bytes} {start count : Nat} {answer : Scan}
    (h : ScanSays content needle (start + 1) count answer)
    (hstart : ¬ OccursAt content needle start) :
    ScanSays content needle start (count + 1) answer := by
  have hsplit : ∀ {offset}, start ≤ offset → offset = start ∨ start + 1 ≤ offset := by
    intro offset hle
    omega
  cases answer with
  | found offset =>
    obtain ⟨hle, hoccurs, hleast⟩ := h
    refine ⟨by omega, hoccurs, fun earlier hearlier hlt ↦ ?_⟩
    rcases hsplit hearlier with rfl | hearlier
    · exact hstart
    · exact hleast earlier hearlier hlt
  | exhausted =>
    intro offset hoffset
    rcases hsplit hoffset with rfl | hoffset
    · exact hstart
    · exact h offset hoffset
  | absent =>
    intro offset hoffset hlt
    rcases hsplit hoffset with rfl | hoffset
    · exact hstart
    · exact h offset hoffset (by omega)

/-- The scan of a fragment, of which `bytes` is left at the offset `start`. -/
theorem scanSays_scan {content needle : Bytes} {first : UInt8} {lastStart : Nat}
    {rest : List Bytes} {bytes : Bytes} {start : Nat}
    (hlast : lastStart + (first :: needle).length = content.length)
    (hcontent : content.drop start = bytes ++ rest.flatten) :
    ScanSays content (first :: needle) start bytes.length
      (scan first (first :: needle) lastStart rest bytes start) := by
  induction bytes generalizing start with
  | nil =>
    intro offset hle hlt
    simp at hlt
    omega
  | cons byte bytes ih =>
    have hnext : content.drop (start + 1) = bytes ++ rest.flatten := by
      rw [← List.drop_drop, hcontent]
      rfl
    have hle : start ≤ content.length := by
      rcases Nat.le_total start content.length with hle | hge
      · exact hle
      · rw [List.drop_eq_nil_of_le hge] at hcontent
        simp at hcontent
    rw [List.length_cons, scan]
    -- At the first byte of the needle the start is too late, a match, or none; elsewhere it is none.
    split
    · split
      · intro offset hoffset hoccurs
        have := hoccurs.add_length_le
        omega
      · split
        · next hmatch =>
          refine ⟨Nat.le_refl _, ⟨hle, ?_⟩, fun earlier _ _ ↦ by omega⟩
          rw [hcontent]
          exact startsWith_iff.1 hmatch
        · next hmatch =>
          refine (ih hnext).of_succ fun hoccurs ↦ hmatch (startsWith_iff.2 ?_)
          rw [List.flatten_cons, ← hcontent]
          exact hoccurs.2
    · next hne => exact (ih hnext).of_succ (not_occursAt_of_ne hcontent hne)

/-- A fragment is scanned from the start on, and the next one only where nothing was found. -/
theorem scanAll_cons {needle : Bytes} {first : UInt8} {lastStart start : Nat}
    {fragment : Bytes} {rest : List Bytes} {base : Nat} (h : start ≤ base + fragment.length) :
    scanAll first needle lastStart start (fragment :: rest) base =
      match scan first needle lastStart rest (fragment.drop (start - base)) (max base start) with
      | .found offset => .ok (some offset)
      | .exhausted => .ok none
      | .absent => scanAll first needle lastStart start rest (base + fragment.length) := by
  rw [scanAll, sliceFrom_of_le (by omega)]
  rfl

/-- The scan of the fragments from the offset `base` on. -/
theorem scanAll_eq_ok {content needle : Bytes} {first : UInt8} {lastStart start : Nat}
    {fragments : List Bytes} {base : Nat}
    (hlast : lastStart + (first :: needle).length = content.length)
    (hcontent : content.drop base = fragments.flatten)
    (hreaches : ∀ fragment ∈ fragments.head?, start ≤ base + fragment.length) :
    ∃ answer, scanAll first (first :: needle) lastStart start fragments base = .ok answer ∧
      IsFirstOccurrence content (first :: needle) (max base start) answer := by
  induction fragments generalizing base with
  | nil =>
    refine ⟨none, rfl, fun offset hoffset hoccurs ↦ ?_⟩
    have hend : content.length ≤ base := List.drop_eq_nil_iff.1 (by simpa using hcontent)
    have := hoccurs.add_length_le
    rw [List.length_cons] at this
    omega
  | cons fragment rest ih =>
    have hreach : start ≤ base + fragment.length := hreaches fragment rfl
    have hnext : content.drop (base + fragment.length) = rest.flatten := by
      rw [← List.drop_drop, hcontent, List.flatten_cons, List.drop_left]
    -- Only the first fragment can begin before `start`, and is then scanned in part.
    have htail : content.drop (max base start) =
        fragment.drop (start - base) ++ rest.flatten := by
      rw [show max base start = base + (start - base) by omega, ← List.drop_drop, hcontent,
        List.flatten_cons, List.drop_append_of_le_length (by omega)]
    have hscan := scanSays_scan hlast htail
    rw [scanAll_cons hreach]
    revert hscan
    cases scan first (first :: needle) lastStart rest (fragment.drop (start - base))
      (max base start) with
    | found offset => exact fun hscan ↦ ⟨some offset, rfl, hscan⟩
    | exhausted => exact fun hscan ↦ ⟨none, rfl, hscan⟩
    | absent =>
      intro hscan
      obtain ⟨answer, heq, hanswer⟩ := ih hnext fun f _ ↦ by omega
      refine ⟨answer, heq, ?_⟩
      -- the fragment holds no start, so the search may as well begin behind it
      have hskip : ∀ offset, max base start ≤ offset → offset < base + fragment.length →
          ¬ OccursAt content (first :: needle) offset := by
        intro offset hle hlt
        exact hscan offset hle (by rw [List.length_drop]; omega)
      cases answer with
      | none =>
        intro offset hle
        by_cases hlt : offset < base + fragment.length
        · exact hskip offset hle hlt
        · exact hanswer offset (by omega)
      | some found =>
        obtain ⟨hle, hoccurs, hleast⟩ := hanswer
        refine ⟨by omega, hoccurs, fun earlier hearlier hbefore ↦ ?_⟩
        by_cases hlt : earlier < base + fragment.length
        · exact hskip earlier hearlier hlt
        · exact hleast earlier (by omega) hbefore

/-! ### The search -/

/-- **The search finds the first occurrence**, and takes no position out of its range on the way. -/
theorem search_eq_ok {buffer : Buffer} (hsound : buffer.Sound) (needle : Bytes) (start : Nat) :
    ∃ answer, buffer.search needle start = .ok answer ∧
      IsFirstOccurrence buffer.toBytes needle start answer := by
  have hlength : buffer.toBytes.length = buffer.length := hsound.length_toBytes
  cases needle with
  | nil =>
    refine ⟨if start ≤ buffer.length then some start else none, rfl, ?_⟩
    split
    · exact ⟨Nat.le_refl _, ⟨by omega, List.nil_prefix⟩, fun earlier _ _ ↦ by omega⟩
    · intro offset hle hoccurs
      have := hoccurs.1
      omega
  | cons first needle =>
    rw [search]
    split
    · next hshort =>
      refine ⟨none, rfl, fun offset hle hoccurs ↦ ?_⟩
      have := hoccurs.add_length_le
      omega
    · next hlong =>
      rw [List.length_cons] at hlong
      have hstop : buffer.length = buffer.fragments.reverse.reverse.flatten.length := by
        rw [List.reverse_reverse]
        exact hsound.length_eq
      obtain ⟨fragments, base, hlocate, hat⟩ :=
        locate_eq_ok [] hstop (show start < buffer.length by omega)
      have hcontent : buffer.fragments.reverse.reverse.flatten ++ ([] : List Bytes).flatten =
          buffer.toBytes := by
        simp [toBytes]
      rw [hcontent] at hat
      have hlast : buffer.length - (first :: needle).length + (first :: needle).length =
          buffer.toBytes.length := by
        rw [List.length_cons]
        omega
      obtain ⟨answer, hscan, hanswer⟩ := scanAll_eq_ok hlast hat.drop_base hat.reaches
      refine ⟨answer, ?_, ?_⟩
      · rw [difference_of_le (by rw [List.length_cons]; omega), hlocate]
        exact hscan
      · rwa [show max base start = start from Nat.max_eq_right hat.base_le] at hanswer

/-- The search finds the first occurrence. -/
theorem isFirstOccurrence_findFrom? {buffer : Buffer} (hsound : buffer.Sound) (needle : Bytes)
    (start : Nat) :
    IsFirstOccurrence buffer.toBytes needle start (buffer.findFrom? needle start) := by
  obtain ⟨answer, hsearch, hanswer⟩ := search_eq_ok hsound needle start
  rw [findFrom?, hsearch]
  exact hanswer

theorem isSome_findFrom?_iff {buffer : Buffer} (hsound : buffer.Sound) {needle : Bytes}
    {start : Nat} :
    (buffer.findFrom? needle start).isSome ↔
      ∃ offset, start ≤ offset ∧ OccursAt buffer.toBytes needle offset := by
  have hfirst := isFirstOccurrence_findFrom? hsound needle start
  cases hfind : buffer.findFrom? needle start with
  | none =>
    rw [hfind] at hfirst
    simp only [Option.isSome_none, Bool.false_eq_true, false_iff, not_exists, not_and]
    exact hfirst
  | some offset =>
    rw [hfind] at hfirst
    exact iff_of_true rfl ⟨offset, hfirst.1, hfirst.2.1⟩

/-- A buffer contains a sequence exactly when its content does, wherever the content is cut. -/
theorem containsSequence_iff {buffer : Buffer} (hsound : buffer.Sound) {needle : Bytes} :
    buffer.containsSequence needle = true ↔ needle <:+: buffer.toBytes := by
  rw [containsSequence, find?, isSome_findFrom?_iff hsound, infix_iff_exists_occursAt]
  simp only [Nat.zero_le, true_and]

end Conduit.Buffer
