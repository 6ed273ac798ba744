import Conduit.Proofs.Buffer.Search
import Conduit.Proofs.Reader.Run

/-!
# The resumed search for a terminator

A terminator remembers how much of the collected bytes it has searched, and looks only at what is new
and at the old bytes in which the sequence may begin. The main statement is
`performAll_terminator`: in every run of a reader this cannot be told from searching all of the
collected bytes each time.

It rests on one invariant, `Terminator.Knows`: the remembered part lies within the content and does
not hold the sequence. An occurrence that starts before the window would end in the remembered part
(`evaluate_fst`), appending keeps the remembered part as it is (`Knows.append`), and the empty buffer
that every hand-over leaves behind comes with a terminator that remembers nothing
(`knows_of_scanned_eq_zero`).
-/

namespace Conduit

open Buffer

namespace Terminator

/-- The remembered part lies within the content, and the sequence is not in it. -/
structure Knows (t : Terminator) (buffer : Buffer) : Prop where
  scanned_le : t.scanned ≤ buffer.length
  absent : t.sequence ≠ [] → ¬ t.sequence <:+: buffer.toBytes.take t.scanned

/-- A terminator that remembers nothing knows nothing wrong. -/
theorem knows_of_scanned_eq_zero {t : Terminator} (h : t.scanned = 0) (buffer : Buffer) :
    t.Knows buffer := by
  refine ⟨by omega, fun hne hinfix ↦ hne ?_⟩
  rw [h, List.take_zero] at hinfix
  exact List.infix_nil.1 hinfix

/-- New bytes go behind the remembered part. -/
theorem Knows.append {t : Terminator} {buffer : Buffer} (h : t.Knows buffer)
    (hsound : buffer.Sound) (fragment : Bytes) : t.Knows (buffer.append fragment) := by
  have hlength : buffer.toBytes.length = buffer.length := hsound.length_toBytes
  have hlonger : (buffer.append fragment).toBytes.length = (buffer.append fragment).length :=
    (hsound.append fragment).length_toBytes
  rw [toBytes_append, List.length_append] at hlonger
  have hscanned := h.scanned_le
  refine ⟨by omega, ?_⟩
  rw [toBytes_append, List.take_append_of_le_length (by omega)]
  exact h.absent

@[simp] theorem evaluate_sequence (t : Terminator) (buffer : Buffer) :
    (t.evaluate buffer).2.sequence = t.sequence := by
  simp only [evaluate]
  split <;> split <;> rfl

/-- A terminator looks from where it left off, less what may be the beginning of its sequence. -/
theorem evaluate_of_scanned_le {t : Terminator} {buffer : Buffer}
    (h : t.scanned ≤ buffer.length) :
    t.evaluate buffer =
      if (buffer.findFrom? t.sequence (t.scanned - (t.sequence.length - 1))).isSome then
        (true, { t with scanned := 0 })
      else (false, { t with scanned := buffer.length }) := by
  simp only [evaluate, if_neg (Nat.not_lt.2 h)]

/-- **The window is wide enough.** An occurrence that starts before the window ends within the
remembered part, so there is none. -/
theorem isSome_findFrom?_window {t : Terminator} {buffer : Buffer} (hsound : buffer.Sound)
    (h : t.Knows buffer) :
    (buffer.findFrom? t.sequence (t.scanned - (t.sequence.length - 1))).isSome ↔
      t.sequence <:+: buffer.toBytes := by
  rw [isSome_findFrom?_iff hsound, infix_iff_exists_occursAt]
  have hscanned := h.scanned_le
  constructor
  · rintro ⟨offset, -, hoccurs⟩
    exact ⟨offset, hoccurs⟩
  · rintro ⟨offset, hoccurs⟩
    by_cases hwindow : t.scanned - (t.sequence.length - 1) ≤ offset
    · exact ⟨offset, hwindow, hoccurs⟩
    · by_cases hnil : t.sequence = []
      · -- The empty sequence stands everywhere, so also in the window.
        refine ⟨t.scanned, by omega, ?_, ?_⟩
        · rw [hsound.length_toBytes]
          exact hscanned
        · rw [hnil]
          exact List.nil_prefix
      · exact absurd (infix_iff_exists_occursAt.2 ⟨offset, hoccurs.take (by omega)⟩)
          (h.absent hnil)

/-- What a terminator knows of the prefix that it has scanned is enough to find its sequence. -/
theorem evaluate_fst {t : Terminator} {buffer : Buffer} (hsound : buffer.Sound)
    (h : t.Knows buffer) : (t.evaluate buffer).1 = buffer.containsSequence t.sequence := by
  rw [evaluate_of_scanned_le h.scanned_le, Bool.eq_iff_iff, containsSequence_iff hsound,
    ← isSome_findFrom?_window hsound h]
  split <;> simp_all

/-- A search that finds nothing makes all of the content known. -/
theorem Knows.evaluate {t : Terminator} {buffer : Buffer} (hsound : buffer.Sound)
    (h : t.Knows buffer) : (t.evaluate buffer).2.Knows buffer := by
  rw [evaluate_of_scanned_le h.scanned_le]
  split
  · exact knows_of_scanned_eq_zero rfl buffer
  · next hfound =>
    refine ⟨Nat.le_refl _, fun _ hinfix ↦ hfound ?_⟩
    rw [isSome_findFrom?_window hsound h]
    exact hinfix.trans (List.take_prefix _ _).isInfix

end Terminator

/-- The rule that looks for a sequence in all of the collected bytes each time. -/
def CompletionRule.contains {W : Type} (sequence : Bytes) : CompletionRule W Unit :=
  .ofTest fun buffer ↦ .ok (buffer.containsSequence sequence)

namespace Reader

variable {W P Q C : Type}

/-- The reader with another rule state. -/
def withRule (reader : Reader P C) (rule : Q) : Reader Q C :=
  { reader with rule }

/-- The reader looks for `sequence`, and what its terminator remembers of its buffer is true. -/
structure Scanning (sequence : Bytes) (reader : Reader Terminator C) : Prop where
  sequence_eq : reader.rule.sequence = sequence
  sound : reader.buffer.Sound
  knows : reader.rule.Knows reader.buffer

variable {sequence : Bytes} {reader : Reader Terminator C}

/-- An empty buffer and a terminator that remembers nothing go together. -/
theorem Scanning.afresh (h : reader.Scanning sequence) {t : Terminator}
    (ht : t.sequence = reader.rule.sequence) (sink : C) (closed : Bool) (completed : Nat) :
    Scanning sequence { reader with
      rule := t.reset, sink, buffer := .empty, closed, completedMessages := completed } where
  sequence_eq := ht.trans h.sequence_eq
  sound := .empty
  knows := Terminator.knows_of_scanned_eq_zero rfl _

/-- What an operation leaves of a reader with a terminator, and of one that searches all of its
buffer each time: the first one still scans, and but for their rules the two are the same. -/
structure Alike (sequence : Bytes) (resumed : Reader Terminator C × W) (anew : Reader Unit C × W) :
    Prop where
  scanning : resumed.1.Scanning sequence
  reader_eq : anew.1 = resumed.1.withRule ()
  state_eq : anew.2 = resumed.2

/-- An operation that does nothing leaves the readers alike. -/
theorem Scanning.alike (h : reader.Scanning sequence) (w : W) :
    Alike sequence (reader, w) (reader.withRule (), w) :=
  ⟨h, rfl, rfl⟩

/-! ### One operation -/

/-- Both rules come to the same verdict, so the readers do the same. -/
theorem Scanning.onFragment (h : reader.Scanning sequence) (sink : Sink W C) (fragment : Bytes)
    (w : W) :
    let resumed := reader.onFragment Terminator.rule sink fragment w
    let anew := (reader.withRule ()).onFragment (.contains sequence) sink fragment w
    anew.1.1 = resumed.1.1 ∧ Alike sequence (resumed.1.2, resumed.2) (anew.1.2, anew.2) := by
  cases hclosed : reader.closed with
  | true =>
    have hother : (reader.withRule ()).closed = true := hclosed
    rw [onFragment_of_closed hclosed, onFragment_of_closed hother]
    exact ⟨rfl, h.alike w⟩
  | false =>
    have hother : (reader.withRule ()).closed = false := hclosed
    by_cases hnil : fragment = []
    · rw [hnil, onFragment_nil hclosed, onFragment_nil hother]
      exact ⟨rfl, h.alike w⟩
    · have hsound := h.sound.append fragment
      have hknows := h.knows.append h.sound fragment
      have hsequence := reader.rule.evaluate_sequence (reader.buffer.append fragment)
      have hverdict := Terminator.evaluate_fst hsound hknows
      rw [h.sequence_eq] at hverdict
      rw [onFragment_of_ne_nil _ _ hclosed hnil, onFragment_of_ne_nil _ _ hother hnil]
      simp only [Terminator.rule, CompletionRule.contains, CompletionRule.ofTest, withRule]
      rw [← hverdict]
      cases (reader.rule.evaluate (reader.buffer.append fragment)).1 with
      | true => exact ⟨rfl, h.afresh hsequence _ _ _, rfl, rfl⟩
      | false =>
        exact ⟨rfl, ⟨hsequence.trans h.sequence_eq, hsound, hknows.evaluate hsound⟩, rfl, rfl⟩

theorem Scanning.markSourceClosed (h : reader.Scanning sequence) (w : W) :
    Alike sequence (reader.markSourceClosed Terminator.rule w)
      ((reader.withRule ()).markSourceClosed (.contains sequence) w) := by
  cases hclosed : reader.closed with
  | true =>
    have hother : (reader.withRule ()).closed = true := hclosed
    rw [markSourceClosed_of_closed hclosed, markSourceClosed_of_closed hother]
    exact h.alike w
  | false =>
    have hother : (reader.withRule ()).closed = false := hclosed
    rw [markSourceClosed_of_open hclosed, markSourceClosed_of_open hother]
    exact ⟨h.afresh rfl _ _ _, rfl, rfl⟩

theorem Scanning.fail (h : reader.Scanning sequence) (sink : Sink W C) (fault : Fault) (w : W) :
    Alike sequence (reader.fail Terminator.rule sink fault w)
      ((reader.withRule ()).fail (.contains sequence) sink fault w) := by
  cases hclosed : reader.closed with
  | true =>
    have hother : (reader.withRule ()).closed = true := hclosed
    rw [fail_of_closed hclosed, fail_of_closed hother]
    exact h.alike w
  | false =>
    have hother : (reader.withRule ()).closed = false := hclosed
    rw [fail_of_open hclosed, fail_of_open hother]
    exact ⟨h.afresh rfl _ _ _, rfl, rfl⟩

/-- A read event is a fragment, the end of the source or its failure. -/
theorem Scanning.intercept (h : reader.Scanning sequence) (sink : Sink W C) (event : ReadEvent)
    (w : W) :
    let resumed := reader.intercept Terminator.rule sink event w
    let anew := (reader.withRule ()).intercept (.contains sequence) sink event w
    anew.1.1 = resumed.1.1 ∧ Alike sequence (resumed.1.2, resumed.2) (anew.1.2, anew.2) := by
  cases event with
  | fragment bytes =>
    rw [intercept_fragment, intercept_fragment]
    by_cases hempty : (bytes.isEmpty && !reader.closed) = true
    · have hother : (bytes.isEmpty && !(reader.withRule ()).closed) = true := hempty
      rw [if_pos hempty, if_pos hother]
      exact ⟨rfl, h.alike w⟩
    · have hother : ¬(bytes.isEmpty && !(reader.withRule ()).closed) = true := hempty
      obtain ⟨hprogress, halike⟩ := h.onFragment sink bytes w
      rw [if_neg hempty, if_neg hother]
      exact ⟨congrArg flags hprogress, halike⟩
  | endOfStream => exact ⟨rfl, h.markSourceClosed w⟩
  | failed error => exact ⟨rfl, h.fail sink _ w⟩

/-! ### Runs -/

/-- **One step.** The rules cannot be told apart by it. -/
theorem Scanning.perform (h : reader.Scanning sequence) (sink : Sink W C) (op : ReaderOp) (w : W) :
    let resumed := reader.perform Terminator.rule sink op w
    let anew := (reader.withRule ()).perform (.contains sequence) sink op w
    anew.1.1 = resumed.1.1 ∧ Alike sequence (resumed.1.2, resumed.2) (anew.1.2, anew.2) := by
  cases op with
  | fragment bytes =>
    obtain ⟨hprogress, halike⟩ := h.onFragment sink bytes w
    exact ⟨congrArg ReaderAnswer.progress hprogress, halike⟩
  | intercept event =>
    obtain ⟨hflags, halike⟩ := h.intercept sink event w
    exact ⟨congrArg ReaderAnswer.flags hflags, halike⟩
  | close => exact ⟨rfl, h.markSourceClosed w⟩
  | fail fault => exact ⟨rfl, h.fail sink fault w⟩

/-- **A run.** The rules cannot be told apart by its reports. -/
theorem Scanning.performAll (h : reader.Scanning sequence) (sink : Sink W C) (ops : List ReaderOp)
    (w : W) :
    let resumed := reader.performAll Terminator.rule sink ops w
    let anew := (reader.withRule ()).performAll (.contains sequence) sink ops w
    anew.1.1 = resumed.1.1 ∧ Alike sequence (resumed.1.2, resumed.2) (anew.1.2, anew.2) := by
  induction ops generalizing reader w with
  | nil => exact ⟨rfl, h.alike w⟩
  | cons op ops ih =>
    obtain ⟨hanswer, hscanning, hreader, hstate⟩ := h.perform sink op w
    obtain ⟨hreports, halike⟩ := ih hscanning (reader.perform Terminator.rule sink op w).2
    rw [performAll_cons, performAll_cons]
    simp only at hreader hstate
    simp only [hreader, hstate, hanswer]
    exact ⟨congrArg (_ :: ·) hreports, halike⟩

/-- **Resuming cannot be told from searching anew.** A fresh reader with a terminator and one that
looks for the sequence in all of the collected bytes answer every run of operations alike, report
the same lengths and counts after each, tell their sinks the same and leave the same state behind.
What the terminator has searched is at no time more than what is collected, and does not hold the
sequence. -/
theorem performAll_terminator (sink : Sink W C) (sequence : Bytes) (connection : ConnectionId)
    (state : C) (ops : List ReaderOp) (w : W) :
    let resumed : (List ReaderReport × Reader Terminator C) × W :=
      (fresh connection ⟨sequence, 0⟩ state).performAll Terminator.rule sink ops w
    let anew : (List ReaderReport × Reader Unit C) × W :=
      (fresh connection () state).performAll (.contains sequence) sink ops w
    resumed.1.1 = anew.1.1 ∧ resumed.1.2.sink = anew.1.2.sink ∧
      resumed.1.2.closed = anew.1.2.closed ∧ resumed.2 = anew.2 ∧
      (sequence ≠ [] →
        resumed.1.2.rule.scanned ≤ resumed.1.2.bufferedLength ∧
        ¬ sequence <:+: resumed.1.2.buffer.toBytes.take resumed.1.2.rule.scanned) := by
  intro resumed anew
  have hfresh : (fresh connection (⟨sequence, 0⟩ : Terminator) state).Scanning sequence :=
    ⟨rfl, .empty, Terminator.knows_of_scanned_eq_zero rfl _⟩
  obtain ⟨hreports, hend, hreader, hstate⟩ := hfresh.performAll sink ops w
  have hanew : anew.1.2 = resumed.1.2.withRule () := hreader
  refine ⟨hreports.symm, ?_, ?_, hstate.symm, fun hne ↦ ⟨hend.knows.scanned_le, ?_⟩⟩
  · rw [hanew]
    rfl
  · rw [hanew]
    rfl
  · have habsent := hend.knows.absent
    rw [hend.sequence_eq] at habsent
    exact habsent hne

end Reader

end Conduit
