import Conduit.Proofs.Chain.Run

/-!
# The calls of a pass

A host can note something whenever it asks a stage (`ChainHost.noting`). The noting host keeps its notes
beside the state of the original one, so no stage sees them, and whatever is done with it goes as it
would go without them (`Notes`). Notes are explicit: they are a function of the state in which an action
begins, and those of one action after another are put together (`Notes.bind`).

What is noted most of the time is which stage was called at which position, and what it answered
(`Chain.callsOf`). Calls that stages make through the pools are part of what a stage does, and are not
noted. The notes of a pass have the equations of the pass itself (`callsOf_of_le`, `callsOf_of_lt`),
which is how statements about calls are proved along a pass.
-/

namespace Conduit

/-- A call of a stage, and how it went. -/
structure StageCall (S : Type) where
  /-- The position that the stage was given. -/
  index : Nat
  /-- The tag of the stage. -/
  tag : S
  /-- The answer. -/
  answer : StageAnswer

namespace StageCall

variable {S : Type}

/-- Whether the stage asked to be run again. -/
def asksRerun (call : StageCall S) : Bool :=
  match call.answer with
  | .ok (.ok .rerun) => true
  | _ => false

theorem asksRerun_iff (call : StageCall S) :
    call.asksRerun = true ↔ call.answer = .ok (.ok .rerun) := by
  unfold asksRerun
  split
  · next h => simp [h]
  · next h => simpa using h

/-- How many of the last calls in a row asked for a rerun. -/
def rerunsInARow (calls : List (StageCall S)) : Nat :=
  (calls.reverse.takeWhile asksRerun).length

/-- A call that asks to be run again is one more in a row. -/
theorem rerunsInARow_append_rerun (calls : List (StageCall S)) {call : StageCall S}
    (h : call.answer = .ok (.ok .rerun)) :
    rerunsInARow (calls ++ [call]) = rerunsInARow calls + 1 := by
  simp [rerunsInARow, call.asksRerun_iff.2 h]

theorem rerunsInARow_append_other (calls : List (StageCall S)) {call : StageCall S}
    (h : call.answer ≠ .ok (.ok .rerun)) : rerunsInARow (calls ++ [call]) = 0 := by
  simp [rerunsInARow, mt call.asksRerun_iff.1 h]

end StageCall

/-! ### Noting hosts -/

/-- The same place, in a state that keeps something else beside. -/
def Cell.onFst {W A : Type} (L : Type) (cell : Cell W A) : Cell (W × L) A where
  read w := cell.read w.1
  write a w := (cell.write a w.1, w.2)

namespace ChainHost

variable {W S L : Type}

/-- The host that makes a note of every call of a stage. -/
def noting (host : ChainHost W S) (note : S → StageView → W → L) :
    ChainHost (W × List L) S where
  pool ref := (host.pool ref).onFst _
  registry w := host.registry w.1
  process tag view := fun w ↦
    let asked := host.process tag view w.1
    (asked.1, asked.2, w.2 ++ [note tag view w.1])

/-- A call of a stage makes its note, and does what it does without. -/
theorem noting_process (host : ChainHost W S) (note : S → StageView → W → L) {tag : S}
    {view view' : StageView} {answer : StageAnswer} {w w' : W}
    (h : host.process tag view w = ((answer, view'), w')) (notes : List L) :
    (host.noting note).process tag view (w, notes) =
      ((answer, view'), w', notes ++ [note tag view w]) := by
  simp only [noting, h]

/-- The host that notes every call of a stage. -/
def recording (host : ChainHost W S) : ChainHost (W × List (StageCall S)) S where
  pool ref := (host.pool ref).onFst _
  registry w := host.registry w.1
  process tag view := fun w ↦
    let asked := host.process tag view w.1
    (asked.1, asked.2, w.2 ++ [⟨view.stageIndex, tag, asked.1.1⟩])

/-- The note of a call. -/
def call (host : ChainHost W S) (tag : S) (view : StageView) (w : W) : StageCall S :=
  ⟨view.stageIndex, tag, (host.process tag view w).1.1⟩

end ChainHost

/-- An action of a noting host does what the one of the original host does, and adds these notes. -/
def Notes {W L A : Type} (noted : W → List L) (x' : StateM (W × List L) A) (x : StateM W A) : Prop :=
  ∀ w notes, x' (w, notes) = ((x w).1, (x w).2, notes ++ noted w)

namespace Notes

variable {W L A B : Type} {noted : W → List L} {x' : StateM (W × List L) A} {x : StateM W A}

theorem pure (a : A) : Notes (fun _ ↦ ([] : List L)) (pure a) (pure a : StateM W A) := by
  intro w notes
  rw [List.append_nil]
  rfl

theorem bind {noted' : A → W → List L} {f' : A → StateM (W × List L) B} {f : A → StateM W B}
    (h : Notes noted x' x) (hnext : ∀ a, Notes (noted' a) (f' a) (f a)) :
    Notes (fun w ↦ noted w ++ noted' (x w).1 (x w).2) (x' >>= f') (x >>= f) := by
  intro w notes
  show f' (x' (w, notes)).1 (x' (w, notes)).2 = _
  rw [h w notes, hnext, List.append_assoc]
  rfl

/-- Nothing is noted before an action. -/
theorem after_quiet {f' : A → StateM (W × List L) B} {f : A → StateM W B} {noted' : A → W → List L}
    (h : Notes (fun _ ↦ []) x' x) (hnext : ∀ a, Notes (noted' a) (f' a) (f a)) :
    Notes (fun w ↦ noted' (x w).1 (x w).2) (x' >>= f') (x >>= f) :=
  h.bind hnext

/-- Nothing is noted behind an action. -/
theorem then_quiet {f' : A → StateM (W × List L) B} {f : A → StateM W B} (h : Notes noted x' x)
    (hnext : ∀ a, Notes (fun _ ↦ []) (f' a) (f a)) : Notes noted (x' >>= f') (x >>= f) := by
  intro w notes
  have hbind := h.bind hnext w notes
  simpa only [List.append_nil] using hbind

/-- The notes alone. -/
theorem eq (h : Notes noted x' x) (w : W) : (x' (w, [])).2.2 = noted w := by
  rw [h w [], List.nil_append]

theorem modify (cell : Cell W A) (f : A → A) :
    Notes (fun _ ↦ ([] : List L)) ((cell.onFst (List L)).modify f) (cell.modify f) := by
  intro w notes
  rw [List.append_nil]
  rfl

end Notes

namespace Chain

variable {W S L : Type}

/-- What a noting host notes of a pass. -/
def notesOf (host : ChainHost W S) (note : S → StageView → W → L) (chain : Chain S) (pass : Pass)
    (w : W) : List L :=
  (chain.run (host.noting note) pass (w, [])).2.2

/-- **Noting changes nothing.** The noting host runs a pass as the original one does, and adds the
notes of the pass. -/
theorem run_noting (host : ChainHost W S) (note : S → StageView → W → L) (chain : Chain S)
    (pass : Pass) :
    Notes (chain.notesOf host note pass) (chain.run (host.noting note) pass)
      (chain.run host pass) := by
  intro w notes
  induction pass using chain.pass_induction generalizing w notes with
  | ended pass h =>
    rw [notesOf, run_of_le _ h, run_of_le _ h, run_of_le _ h]
    simp
  | atStage pass h ihNext ihSame =>
    rcases hasked : host.process chain.stages[pass.inst.cursor].tag (pass.view chain.name) w with
      ⟨⟨answer, view⟩, w'⟩
    have hnoted := host.noting_process note hasked
    -- The induction hypothesis serves twice: behind the given notes, and behind none.
    rw [notesOf, run_of_lt h hasked, run_of_lt h (hnoted notes), run_of_lt h (hnoted [])]
    cases hjudge : chain.judge pass.inst.cursor chain.stages[pass.inst.cursor]
        pass.inst.consecutiveReruns answer with
    | next =>
      simp only [ihNext]
      simp
    | same =>
      simp only [ihSame (reruns_lt_of_judge_eq_same hjudge)]
      simp
    | finish outcome => simp

theorem notesOf_of_le (host : ChainHost W S) (note : S → StageView → W → L) {chain : Chain S}
    {pass : Pass} (h : chain.stages.length ≤ pass.inst.cursor) (w : W) :
    chain.notesOf host note pass w = [] := by
  rw [notesOf, run_of_le _ h]

/-- A pass notes its first call, and then what is noted of the rest. -/
theorem notesOf_of_lt {host : ChainHost W S} (note : S → StageView → W → L) {chain : Chain S}
    {pass : Pass} {w w' : W} {answer : StageAnswer} {view : StageView}
    (h : pass.inst.cursor < chain.stages.length)
    (hasked : host.process chain.stages[pass.inst.cursor].tag (pass.view chain.name) w =
      ((answer, view), w')) :
    chain.notesOf host note pass w =
      note chain.stages[pass.inst.cursor].tag (pass.view chain.name) w ::
        match chain.judge pass.inst.cursor chain.stages[pass.inst.cursor]
          pass.inst.consecutiveReruns answer with
        | .next => chain.notesOf host note (pass.update view).step w'
        | .same => chain.notesOf host note (pass.update view).again w'
        | .finish _ => [] := by
  rw [notesOf, run_of_lt h (host.noting_process note hasked [])]
  cases hjudge : chain.judge pass.inst.cursor chain.stages[pass.inst.cursor]
      pass.inst.consecutiveReruns answer with
  | next => simp [run_noting host note chain _ w']
  | same => simp [run_noting host note chain _ w']
  | finish outcome => simp

/-- The calls of a pass. -/
def callsOf (host : ChainHost W S) (chain : Chain S) (pass : Pass) (w : W) : List (StageCall S) :=
  (chain.run host.recording pass (w, [])).2.2

theorem callsOf_of_le (host : ChainHost W S) {chain : Chain S} {pass : Pass}
    (h : chain.stages.length ≤ pass.inst.cursor) (w : W) : chain.callsOf host pass w = [] :=
  notesOf_of_le host host.call h w

theorem callsOf_of_lt {host : ChainHost W S} {chain : Chain S} {pass : Pass} {w w' : W}
    {answer : StageAnswer} {view : StageView} (h : pass.inst.cursor < chain.stages.length)
    (hasked : host.process chain.stages[pass.inst.cursor].tag (pass.view chain.name) w =
      ((answer, view), w')) :
    chain.callsOf host pass w =
      ⟨pass.inst.cursor, chain.stages[pass.inst.cursor].tag, answer⟩ ::
        match chain.judge pass.inst.cursor chain.stages[pass.inst.cursor]
          pass.inst.consecutiveReruns answer with
        | .next => chain.callsOf host (pass.update view).step w'
        | .same => chain.callsOf host (pass.update view).again w'
        | .finish _ => [] := by
  have hnotes := notesOf_of_lt host.call h hasked
  rwa [ChainHost.call, hasked] at hnotes

/-- A pass that stands at a stage calls it. -/
theorem callsOf_ne_nil (host : ChainHost W S) {chain : Chain S} {pass : Pass}
    (h : pass.inst.cursor < chain.stages.length) (w : W) : chain.callsOf host pass w ≠ [] := by
  rcases hasked : host.process chain.stages[pass.inst.cursor].tag (pass.view chain.name) w with
    ⟨⟨answer, view⟩, w'⟩
  rw [callsOf_of_lt h hasked]
  exact List.cons_ne_nil _ _

end Chain

namespace ChainHost

variable {W S L : Type}

/-- Noting changes nothing about the execution of a lease either. -/
theorem execute_noting (host : ChainHost W S) (note : S → StageView → W → L) (lease : Lease)
    (event : Event) (connection : AttributeStore) :
    Notes (fun w ↦ ((host.pool lease.pool).read w).chain.notesOf host note
        ⟨event, connection, lease.inst⟩ w)
      ((host.noting note).execute lease event connection) (host.execute lease event connection) := by
  intro w notes
  rcases hrun : ((host.pool lease.pool).read w).chain.run host ⟨event, connection, lease.inst⟩ w with
    ⟨⟨outcome, pass⟩, w'⟩
  have hnoted := ((host.pool lease.pool).read w).chain.run_noting host note
    ⟨event, connection, lease.inst⟩ w notes
  rw [hrun] at hnoted
  by_cases hsuspended : outcome = .ok .suspended
  · subst hsuspended
    rw [execute_of_suspended hrun, execute_of_suspended hnoted]
  · rw [execute_of_ended hsuspended hrun, execute_of_ended hsuspended hnoted]
    rfl

/-- **To record the calls of a pass does not change it**. -/
theorem execute_recording (host : ChainHost W S) (lease : Lease) (event : Event)
    (connection : AttributeStore) (w : W) (notes : List (StageCall S)) :
    host.recording.execute lease event connection (w, notes) =
      ((host.execute lease event connection w).1, (host.execute lease event connection w).2,
        notes ++ ((host.pool lease.pool).read w).chain.callsOf host
          ⟨event, connection, lease.inst⟩ w) :=
  host.execute_noting host.call lease event connection w notes

/-- The calls that executing a lease makes. -/
def callsOf (host : ChainHost W S) (lease : Lease) (event : Event) (connection : AttributeStore)
    (w : W) : List (StageCall S) :=
  (host.recording.execute lease event connection (w, [])).2.2

/-- The calls that are recorded are those of the pass. -/
theorem callsOf_eq (host : ChainHost W S) (lease : Lease) (event : Event)
    (connection : AttributeStore) (w : W) :
    host.callsOf lease event connection w =
      ((host.pool lease.pool).read w).chain.callsOf host ⟨event, connection, lease.inst⟩ w := by
  rw [callsOf, execute_recording, List.nil_append]

end ChainHost

end Conduit
