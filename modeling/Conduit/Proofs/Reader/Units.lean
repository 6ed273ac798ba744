import Conduit.Proofs.Reader.Run
import Mathlib.Data.List.Infix

/-!
# How a reader cuts what arrives into messages

A rule that decides by the collected bytes alone cuts any sequence of fragments into units: a unit
ends with the first fragment after which the rule has a verdict on the fragments of the unit, and
the fragments after the last verdict are still open (`Cut.IsOf`). There is exactly one such cut
(`Cut.IsOf.eq`), and it says nothing about readers. The main statement, `performAll_fragments`, is
that a fresh reader follows it: it makes the calls of the cut, each ended unit is one notice to the
sink, and the open unit is what it has collected.

The run is followed by extending the cut fragment by fragment (`Cut.extend`). The reader and the cut
stay in step (`Follows`) because a reader forgets everything at a verdict: its buffer holds the open
unit and nothing else.
-/

namespace Conduit

/-- A unit that has ended. -/
structure EndedUnit where
  /-- The fragments, in the order of their arrival. -/
  fragments : List Bytes
  /-- Why it failed, if it is not complete. -/
  failure : Option Fault

/-- A sequence of fragments, cut into units. -/
structure Cut where
  /-- The units that have ended. -/
  ended : List EndedUnit
  /-- The fragments of the unit that has not. -/
  last : List Bytes

/-- The rule's verdict is a function of the collected bytes. -/
def CompletionRule.Decides {W P : Type} (rule : CompletionRule W P)
    (test : Buffer → Except Fault Bool) : Prop :=
  ∀ state buffer w, (rule.evaluate state buffer w).1.1 = test buffer

/-- The rule asks for more after every fragment of the list. -/
def Undecided (test : Buffer → Except Fault Bool) (fragments : List Bytes) : Prop :=
  ∀ seen, seen <+: fragments → seen ≠ [] → test (.ofFragments seen) = .ok false

namespace EndedUnit

/-- The verdict that ended the unit. -/
def verdict (u : EndedUnit) : Except Fault Bool :=
  match u.failure with
  | none => .ok true
  | some cause => .error cause

/-- What the sink is told of the unit. -/
def notice (u : EndedUnit) : ReaderCall :=
  match u.failure with
  | none => .completed (.ofFragments u.fragments)
  | some cause => .failed (Reader.ruleFault cause)

/-- The unit ends with the first fragment after which the rule has a verdict. -/
structure Ends (test : Buffer → Except Fault Bool) (u : EndedUnit) : Prop where
  nonempty : u.fragments ≠ []
  decided : test (.ofFragments u.fragments) = u.verdict
  undecided : ∀ seen, seen <+: u.fragments → seen ≠ u.fragments → seen ≠ [] →
    test (.ofFragments seen) = .ok false

theorem verdict_ne (u : EndedUnit) : u.verdict ≠ .ok false := by
  rcases u with ⟨fragments, _ | cause⟩ <;> simp [verdict]

/-- A unit is determined by its fragments and by the verdict on them. -/
theorem eq_of_verdict_eq {u v : EndedUnit} (hfragments : u.fragments = v.fragments)
    (hverdict : u.verdict = v.verdict) : u = v := by
  rcases u with ⟨fragments, _ | cause⟩ <;> rcases v with ⟨fragments', _ | cause'⟩ <;>
    simp_all [verdict]

end EndedUnit

/-- The rule is asked after each fragment, about the fragments so far. -/
def askings (fragments : List Bytes) : List ReaderCall :=
  fragments.inits.tail.map fun seen ↦ .evaluate (.ofFragments seen)

theorem askings_concat (fragments : List Bytes) (fragment : Bytes) :
    askings (fragments ++ [fragment]) =
      askings fragments ++ [.evaluate (.ofFragments (fragments ++ [fragment]))] := by
  have hinits : (fragments ++ [fragment]).inits.tail =
      fragments.inits.tail ++ [fragments ++ [fragment]] := by
    rw [List.inits_append]
    cases fragments <;> simp
  rw [askings, hinits, List.map_append]
  rfl

namespace Cut

/-- The calls that a reader makes for an ended unit. -/
def callsOf (u : EndedUnit) : List ReaderCall :=
  askings u.fragments ++ [.reset, u.notice]

/-- The calls that a reader makes for a cut. -/
def calls (cut : Cut) : List ReaderCall :=
  cut.ended.flatMap callsOf ++ askings cut.last

/-- The number of units that are complete. -/
def completed (cut : Cut) : Nat :=
  (cut.ended.filter fun u ↦ u.failure.isNone).length

/-- The cut divides the non-empty fragments of a list where the rule has a verdict. -/
structure IsOf (test : Buffer → Except Fault Bool) (fragments : List Bytes) (cut : Cut) :
    Prop where
  fragments_eq : cut.ended.flatMap EndedUnit.fragments ++ cut.last =
    fragments.filter (· ≠ [])
  ends : ∀ u ∈ cut.ended, u.Ends test
  undecided : Undecided test cut.last

/-! ### There is one cut -/

/-- An ended unit is no beginning of fragments on which the rule has no verdict. -/
theorem not_undecided_of_ends {test : Buffer → Except Fault Bool} {u : EndedUnit}
    (h : u.Ends test) {fragments : List Bytes} (hbegins : u.fragments <+: fragments) :
    ¬ Undecided test fragments := by
  intro hundecided
  apply u.verdict_ne
  rw [← h.decided, hundecided _ hbegins h.nonempty]

/-- Of two units that begin the same fragments neither ends before the other. -/
theorem eq_of_ends {test : Buffer → Except Fault Bool} {u v : EndedUnit} (hu : u.Ends test)
    (hv : v.Ends test) {fragments : List Bytes} (hup : u.fragments <+: fragments)
    (hvp : v.fragments <+: fragments) : u = v := by
  have hfragments : u.fragments = v.fragments := by
    by_contra hne
    rcases List.prefix_or_prefix_of_prefix hup hvp with h | h
    · exact u.verdict_ne (hu.decided ▸ hv.undecided _ h hne hu.nonempty)
    · exact v.verdict_ne (hv.decided ▸ hu.undecided _ h (Ne.symm hne) hv.nonempty)
  refine EndedUnit.eq_of_verdict_eq hfragments ?_
  rw [← hu.decided, ← hv.decided, hfragments]

/-- There is only one way to cut fragments into units, since none of the fragments may be decided earlier
than the last one of its unit. -/
theorem eq_of_flatMap_eq {test : Buffer → Except Fault Bool} {ended ended' : List EndedUnit}
    {last last' : List Bytes} (hends : ∀ u ∈ ended, u.Ends test)
    (hends' : ∀ u ∈ ended', u.Ends test) (hlast : Undecided test last)
    (hlast' : Undecided test last')
    (heq : ended.flatMap EndedUnit.fragments ++ last =
      ended'.flatMap EndedUnit.fragments ++ last') : ended = ended' ∧ last = last' := by
  induction ended generalizing ended' with
  | nil =>
    cases ended' with
    | nil => exact ⟨rfl, by simpa using heq⟩
    | cons v ended' =>
      have hbegins : v.fragments <+: last := by
        rw [List.flatMap_nil, List.nil_append] at heq
        rw [heq, List.flatMap_cons, List.append_assoc]
        exact List.prefix_append _ _
      exact absurd hlast (not_undecided_of_ends (hends' v (by simp)) hbegins)
  | cons u ended ih =>
    have hbegins : u.fragments <+: ended'.flatMap EndedUnit.fragments ++ last' := by
      rw [← heq, List.flatMap_cons, List.append_assoc]
      exact List.prefix_append _ _
    cases ended' with
    | nil =>
      rw [List.flatMap_nil, List.nil_append] at hbegins
      exact absurd hlast' (not_undecided_of_ends (hends u (by simp)) hbegins)
    | cons v ended' =>
      have hbegins' : v.fragments <+: (v :: ended').flatMap EndedUnit.fragments ++ last' := by
        rw [List.flatMap_cons, List.append_assoc]
        exact List.prefix_append _ _
      obtain rfl : u = v := eq_of_ends (hends u (by simp)) (hends' v (by simp)) hbegins hbegins'
      simp only [List.flatMap_cons, List.append_assoc, List.append_cancel_left_eq] at heq
      obtain ⟨rfl, rfl⟩ := ih (fun w hw ↦ hends w (List.mem_cons_of_mem _ hw))
        (fun w hw ↦ hends' w (List.mem_cons_of_mem _ hw)) heq
      exact ⟨rfl, rfl⟩

/-- **A list of fragments is cut in one way only.** -/
theorem IsOf.eq {test : Buffer → Except Fault Bool} {fragments : List Bytes} {cut other : Cut}
    (h : cut.IsOf test fragments) (hother : other.IsOf test fragments) : other = cut := by
  obtain ⟨hended, hlast⟩ := eq_of_flatMap_eq hother.ends h.ends hother.undecided h.undecided
    (hother.fragments_eq.trans h.fragments_eq.symm)
  cases cut
  cases other
  simp_all

/-! ### Extending a cut -/

/-- The cut of one more fragment. -/
def extend (test : Buffer → Except Fault Bool) (cut : Cut) (fragment : Bytes) : Cut :=
  if fragment = [] then cut
  else
    match test (.ofFragments (cut.last ++ [fragment])) with
    | .ok true => ⟨cut.ended ++ [⟨cut.last ++ [fragment], none⟩], []⟩
    | .ok false => ⟨cut.ended, cut.last ++ [fragment]⟩
    | .error cause => ⟨cut.ended ++ [⟨cut.last ++ [fragment], some cause⟩], []⟩

variable {test : Buffer → Except Fault Bool} {fragments : List Bytes} {cut : Cut}

theorem undecided_nil (test : Buffer → Except Fault Bool) : Undecided test [] := by
  intro seen hbegins hne
  exact absurd (List.prefix_nil.1 hbegins) hne

/-- What begins a longer list either is all of it or begins what it extends. -/
theorem undecided_of_ne (h : Undecided test fragments) {fragment : Bytes} {seen : List Bytes}
    (hbegins : seen <+: fragments ++ [fragment]) (hne : seen ≠ fragments ++ [fragment])
    (hnil : seen ≠ []) : test (.ofFragments seen) = .ok false := by
  rcases List.prefix_concat_iff.1 hbegins with heq | hbegins
  · exact absurd heq hne
  · exact h seen hbegins hnil

theorem isOf_nil (test : Buffer → Except Fault Bool) : IsOf test [] ⟨[], []⟩ :=
  ⟨rfl, by simp, undecided_nil test⟩

/-- A unit that ends is put behind the others, and nothing is open any more. -/
theorem IsOf.concat_ended (h : cut.IsOf test fragments) {fragment : Bytes}
    (hfragment : fragment ≠ []) {failure : Option Fault}
    (hverdict : test (.ofFragments (cut.last ++ [fragment])) =
      (⟨cut.last ++ [fragment], failure⟩ : EndedUnit).verdict) :
    IsOf test (fragments ++ [fragment])
      ⟨cut.ended ++ [⟨cut.last ++ [fragment], failure⟩], []⟩ where
  fragments_eq := by
    rw [List.filter_append, ← h.fragments_eq]
    simp [hfragment]
  ends u hu := by
    rcases List.mem_append.1 hu with hu | hu
    · exact h.ends u hu
    · obtain rfl := List.mem_singleton.1 hu
      exact ⟨by simp, hverdict, fun seen hbegins ↦ undecided_of_ne h.undecided hbegins⟩
  undecided := undecided_nil test

/-- One fragment more ends the unit that has begun, or is added to it. -/
theorem IsOf.extend (h : cut.IsOf test fragments) (fragment : Bytes) :
    (cut.extend test fragment).IsOf test (fragments ++ [fragment]) := by
  rw [Cut.extend]
  split
  · next hnil =>
    refine ⟨?_, h.ends, h.undecided⟩
    rw [List.filter_append, ← h.fragments_eq, hnil]
    simp
  · next hne =>
    split
    · next hverdict => exact h.concat_ended hne hverdict
    · next hverdict =>
      refine ⟨?_, h.ends, fun seen hbegins hnil ↦ ?_⟩
      · rw [List.filter_append, ← h.fragments_eq]
        simp [hne]
      · by_cases hall : seen = cut.last ++ [fragment]
        · rw [hall, hverdict]
        · exact undecided_of_ne h.undecided hbegins hall hnil
    · next cause hverdict => exact h.concat_ended hne hverdict

/-! ### What the calls of a cut are -/

/-- Nobody is notified of fragments as long as they are undecided. -/
theorem filter_isNotice_askings (fragments : List Bytes) :
    (askings fragments).filter ReaderCall.isNotice = [] := by
  rw [askings, List.filter_eq_nil_iff]
  intro call hcall
  obtain ⟨seen, -, rfl⟩ := List.mem_map.1 hcall
  simp [ReaderCall.isNotice]

/-- **One notice for each ended unit**, in order, and no other. -/
theorem filter_isNotice_calls (cut : Cut) :
    cut.calls.filter ReaderCall.isNotice = cut.ended.map EndedUnit.notice := by
  have hunit : ∀ u : EndedUnit, (callsOf u).filter ReaderCall.isNotice = [u.notice] := by
    rintro ⟨fragments, _ | cause⟩ <;>
      simp [callsOf, filter_isNotice_askings, EndedUnit.notice, ReaderCall.isNotice]
  rw [calls, List.filter_append, filter_isNotice_askings, List.append_nil, List.filter_flatMap]
  simp only [hunit]
  induction cut.ended with
  | nil => rfl
  | cons u ended ih => rw [List.flatMap_cons, ih, List.map_cons, List.singleton_append]

/-- The rule is asked about each fragment when it is the last one. -/
theorem map_getLast?_asked_askings {fragments : List Bytes}
    (h : ∀ fragment ∈ fragments, fragment ≠ []) :
    ((askings fragments).filterMap ReaderCall.asked?).map (fun seen ↦ seen.fragments.getLast?) =
      fragments.map some := by
  induction fragments using List.reverseRecOn with
  | nil => rfl
  | append_singleton fragments fragment ih =>
    rw [askings_concat, List.filterMap_append, List.map_append,
      ih fun f hf ↦ h f (List.mem_append_left _ hf), List.map_append]
    simp [ReaderCall.asked?, Buffer.fragments_ofFragments h]

/-- **The rule is asked once for each fragment of the cut**, when that fragment is the last of what
is collected. -/
theorem map_getLast?_asked_calls {cut : Cut}
    (h : ∀ fragment ∈ cut.ended.flatMap EndedUnit.fragments ++ cut.last, fragment ≠ []) :
    (cut.calls.filterMap ReaderCall.asked?).map (fun seen ↦ seen.fragments.getLast?) =
      (cut.ended.flatMap EndedUnit.fragments ++ cut.last).map some := by
  have hunit : ∀ u ∈ cut.ended, ((callsOf u).filterMap ReaderCall.asked?).map
      (fun seen ↦ seen.fragments.getLast?) = u.fragments.map some := by
    intro u hu
    have hnotice : u.notice.asked? = none := by
      rcases u with ⟨fragments, _ | cause⟩ <;> rfl
    have hfragments : ∀ fragment ∈ u.fragments, fragment ≠ [] := fun f hf ↦
      h f (List.mem_append_left _ (List.mem_flatMap.2 ⟨u, hu, hf⟩))
    have hrest : [.reset, u.notice].filterMap ReaderCall.asked? = [] := by
      rw [List.filterMap_cons_none rfl, List.filterMap_cons_none hnotice, List.filterMap_nil]
    rw [callsOf, List.filterMap_append, hrest, List.append_nil,
      map_getLast?_asked_askings hfragments]
  rw [calls, List.filterMap_append, List.map_append, List.map_append,
    map_getLast?_asked_askings fun f hf ↦ h f (List.mem_append_right _ hf), List.filterMap_flatMap,
    List.map_flatMap, List.map_flatMap, List.flatMap_congr hunit]

/-- Ending a unit adds one question, one reset and one notice to the calls. -/
theorem calls_ended (cut : Cut) (fragment : Bytes) (failure : Option Fault) :
    calls ⟨cut.ended ++ [⟨cut.last ++ [fragment], failure⟩], []⟩ =
      cut.calls ++ [.evaluate (.ofFragments (cut.last ++ [fragment])), .reset,
        (⟨cut.last ++ [fragment], failure⟩ : EndedUnit).notice] := by
  have hnil : askings [] = [] := rfl
  simp [calls, callsOf, askings_concat, hnil]

/-- Where the unit does not end, only a question is added. -/
theorem calls_open (cut : Cut) (fragment : Bytes) :
    calls ⟨cut.ended, cut.last ++ [fragment]⟩ =
      cut.calls ++ [.evaluate (.ofFragments (cut.last ++ [fragment]))] := by
  simp [calls, askings_concat]

end Cut

namespace Reader

variable {W P C : Type}

/-! ### A reader follows the cut -/

/-- The reader has made the calls of the cut, from the given states on, and has collected the open
unit. -/
structure Follows (rule : CompletionRule W P) (sink : Sink W C) (states : P × C) (start : W)
    (cut : Cut) (reader : Reader P C) (w : W) : Prop where
  closed_eq : reader.closed = false
  buffer_eq : reader.buffer = .ofFragments cut.last
  completed_eq : reader.completedMessages = cut.completed
  played : play rule sink cut.calls states start = ((reader.rule, reader.sink), w)

variable {rule : CompletionRule W P} {sink : Sink W C} {states : P × C} {start : W}
  {test : Buffer → Except Fault Bool} {cut : Cut} {reader : Reader P C} {w : W}

/-- **One fragment.** The reader goes the way in which the cut is extended. -/
theorem Follows.onFragment (hrule : rule.Decides test)
    (h : Follows rule sink states start cut reader w) (fragment : Bytes) :
    Follows rule sink states start (cut.extend test fragment)
      (reader.onFragment rule sink fragment w).1.2 (reader.onFragment rule sink fragment w).2 := by
  by_cases hnil : fragment = []
  · rw [hnil, onFragment_nil h.closed_eq, Cut.extend, if_pos rfl]
    exact h
  · have hbuffer : reader.buffer.append fragment = .ofFragments (cut.last ++ [fragment]) := by
      rw [h.buffer_eq, Buffer.ofFragments_concat]
    have hverdict := hrule reader.rule (.ofFragments (cut.last ++ [fragment])) w
    have hstep := onFragment_of_ne_nil rule sink h.closed_eq hnil w
    have hplay : ∀ more, play rule sink (cut.calls ++ more) states start =
        play rule sink more (reader.rule, reader.sink) w := by
      intro more
      rw [play_append, h.played]
    -- the verdict ends the unit or leaves it open, for the reader as for the cut
    rcases hjudged : rule.evaluate reader.rule (.ofFragments (cut.last ++ [fragment])) w with
      ⟨⟨cause | done, state⟩, w'⟩
    · rw [hjudged] at hverdict
      simp only [hbuffer, hjudged] at hstep
      simp only [Cut.extend, if_neg hnil, ← hverdict, hstep]
      refine ⟨h.closed_eq, rfl, ?_, ?_⟩
      · simpa [Cut.completed] using h.completed_eq
      · rw [Cut.calls_ended, hplay, play_evaluate, hjudged]
        rfl
    · rw [hjudged] at hverdict
      simp only [hbuffer, hjudged] at hstep
      cases done with
      | true =>
        simp only [Cut.extend, if_neg hnil, ← hverdict, hstep]
        refine ⟨h.closed_eq, rfl, ?_, ?_⟩
        · simpa [Cut.completed] using h.completed_eq
        · rw [Cut.calls_ended, hplay, play_evaluate, hjudged]
          rfl
      | false =>
        simp only [Cut.extend, if_neg hnil, ← hverdict, hstep]
        refine ⟨h.closed_eq, rfl, h.completed_eq, ?_⟩
        rw [Cut.calls_open, hplay, play_evaluate, hjudged]
        rfl

/-- **A run.** The reader follows a cut of the fragments that it was given. -/
theorem Follows.performAll (hrule : rule.Decides test)
    (h : Follows rule sink states start cut reader w) {seen : List Bytes}
    (hcut : cut.IsOf test seen) (fragments : List Bytes) :
    ∃ cut' : Cut, cut'.IsOf test (seen ++ fragments) ∧
      let run := reader.performAll rule sink (fragments.map .fragment) w
      Follows rule sink states start cut' run.1.2 run.2 := by
  induction fragments generalizing cut reader w seen with
  | nil => exact ⟨cut, by simpa using hcut, h⟩
  | cons fragment fragments ih =>
    obtain ⟨cut', hof, hfollows⟩ := ih (h.onFragment hrule fragment) (hcut.extend fragment)
    refine ⟨cut', by simpa using hof, ?_⟩
    rw [List.map_cons, performAll_cons]
    exact hfollows

/-- **A reader hands over the units of what arrives.** The fragments are cut in exactly one way, and
a fresh reader makes the calls of that cut: the rule is asked once for each fragment that is not
empty, and for each ended unit, in order, the sink gets one notice, a message of exactly the unit's
fragments or the failure of the rule. What is collected in the end is the open unit. -/
theorem performAll_fragments (hrule : rule.Decides test) (sink : Sink W C)
    (connection : ConnectionId) (state : P) (taken : C) (fragments : List Bytes) (w : W) :
    ∃ cut : Cut, cut.IsOf test fragments ∧ (∀ other : Cut, other.IsOf test fragments → other = cut) ∧
      (let run := (fresh connection state taken).performAll rule sink (fragments.map .fragment) w
      ((run.1.2.rule, run.1.2.sink), run.2) = play rule sink cut.calls (state, taken) w ∧
      run.1.2.closed = false ∧ run.1.2.buffer.fragments = cut.last ∧
      run.1.2.bufferedLength = cut.last.flatten.length ∧
      run.1.2.completedMessages = (cut.ended.filter fun u ↦ u.failure.isNone).length) ∧
      cut.calls.filter ReaderCall.isNotice = cut.ended.map EndedUnit.notice ∧
      (∀ u ∈ cut.ended, (Buffer.ofFragments u.fragments).fragments = u.fragments) ∧
      (cut.calls.filterMap ReaderCall.asked?).map (fun seen ↦ seen.fragments.getLast?) =
        (fragments.filter (· ≠ [])).map some := by
  have hfresh : Follows rule sink (state, taken) w ⟨[], []⟩ (fresh connection state taken) w :=
    ⟨rfl, rfl, rfl, rfl⟩
  obtain ⟨cut, hof, hfollows⟩ := hfresh.performAll hrule (Cut.isOf_nil test) fragments
  rw [List.nil_append] at hof
  have hnonempty : ∀ fragment ∈ cut.ended.flatMap EndedUnit.fragments ++ cut.last,
      fragment ≠ [] := by
    intro fragment hfragment
    rw [hof.fragments_eq] at hfragment
    simpa using (List.mem_filter.1 hfragment).2
  have hlast : (Buffer.ofFragments cut.last).fragments = cut.last :=
    Buffer.fragments_ofFragments fun f hf ↦ hnonempty f (List.mem_append_right _ hf)
  refine ⟨cut, hof, fun other ↦ hof.eq, ⟨hfollows.played.symm, hfollows.closed_eq, ?_, ?_,
    hfollows.completed_eq⟩, cut.filter_isNotice_calls, fun u hu ↦ ?_, ?_⟩
  · rw [hfollows.buffer_eq, hlast]
  · rw [bufferedLength, hfollows.buffer_eq, (Buffer.sound_ofFragments cut.last).length_eq, hlast]
  · exact Buffer.fragments_ofFragments fun f hf ↦
      hnonempty f (List.mem_append_left _ (List.mem_flatMap.2 ⟨u, hu, hf⟩))
  · rw [Cut.map_getLast?_asked_calls hnonempty, hof.fragments_eq]

/-- A message has three bytes, and a zero spoils it. -/
def threeBytes (buffer : Buffer) : Except Fault Bool :=
  if buffer.toBytes.contains 0 then .error ⟨"zero", "a zero", []⟩ else .ok (3 ≤ buffer.length)

/-- Of six fragments, one of them empty, the first two make up a message, the next two are spoiled
and the last one is left. -/
theorem performAll_fragments_threeBytes :
    (CompletionRule.ofTest threeBytes : CompletionRule Unit Unit).Decides threeBytes ∧
      ∃ cut : Cut, cut.IsOf threeBytes [[1], [], [2, 3], [4], [0, 5], [6]] ∧
        cut.calls.filter ReaderCall.isNotice = cut.ended.map EndedUnit.notice ∧
        (cut.ended.filter fun u ↦ u.failure.isNone).length = 1 ∧ cut.last = [[6]] := by
  have hrule : (CompletionRule.ofTest threeBytes : CompletionRule Unit Unit).Decides threeBytes :=
    fun _ _ _ ↦ rfl
  refine ⟨hrule, ?_⟩
  obtain ⟨cut, hof, -, ⟨-, -, hlast, -, hcompleted⟩, hnotices, -⟩ :=
    performAll_fragments hrule (⟨fun taken _ ↦ pure taken, fun taken _ ↦ pure taken⟩ : Sink Unit Unit)
      ⟨1⟩ () () [[1], [], [2, 3], [4], [0, 5], [6]] ()
  exact ⟨cut, hof, hnotices, hcompleted.symm, hlast.symm⟩

end Reader

end Conduit
