import Mathlib.Data.Option.Basic
import Conduit.Proofs.Toml.Keys
import Conduit.Toml.Document

/-!
# The parser gives no key twice

No table of a document that was read holds a key twice (`parse?_keyed`). Tables only grow where the
key is looked up first, with one exception: the open table is put in its place when the next header
comes, and its place is not looked at again. That the place is still vacant then was seen when the
table was opened, so it is part of what holds of a draft (`Draft.Keyed`).
-/

namespace Conduit.Toml

/-! ### Tables below a table -/

/-- The table that a path leads to. The last table of an array stands for the array. -/
inductive Reaches : List String → Entries → Entries → Prop where
  | here {entries : Entries} : Reaches [] entries entries
  | table {key : String} {path : List String} {entries child inner : Entries} {kind : TableKind}
      (hlookup : entries.lookup key = some (.table kind child)) (below : Reaches path child inner) :
      Reaches (key :: path) entries inner
  | array {key : String} {path : List String} {entries child inner : Entries} {kind : TableKind}
      {ofTables : Bool} {items : List Value}
      (hlookup : entries.lookup key = some (.array ofTables items))
      (hlast : items.getLast? = some (.table kind child)) (below : Reaches path child inner) :
      Reaches (key :: path) entries inner

theorem Reaches.eq_of_nil {path : List String} {inner : Entries} (h : Reaches path [] inner) :
    inner = [] := by
  cases h with
  | here => rfl
  | table hlookup | array hlookup => simp at hlookup

/-- Through a table there is only one way on. -/
theorem Reaches.forall_of_table {key : String} {path : List String} {entries child : Entries}
    {kind : TableKind} {P : Entries → Prop} (hlookup : entries.lookup key = some (.table kind child))
    (h : ∀ inner, Reaches path child inner → P inner) (inner : Entries)
    (hinner : Reaches (key :: path) entries inner) : P inner := by
  cases hinner with
  | table hlookup' below =>
    cases hlookup.symm.trans hlookup'
    exact h inner below
  | array hlookup' => cases hlookup.symm.trans hlookup'

/-- Through an array there is only the way over its last table. -/
theorem Reaches.forall_of_array {key : String} {path : List String} {entries child : Entries}
    {kind : TableKind} {ofTables : Bool} {items : List Value} {P : Entries → Prop}
    (hlookup : entries.lookup key = some (.array ofTables items))
    (hlast : items.getLast? = some (.table kind child))
    (h : ∀ inner, Reaches path child inner → P inner) (inner : Entries)
    (hinner : Reaches (key :: path) entries inner) : P inner := by
  cases hinner with
  | table hlookup' => cases hlookup.symm.trans hlookup'
  | array hlookup' hlast' below =>
    cases hlookup.symm.trans hlookup'
    cases hlast.symm.trans hlast'
    exact h inner below

section Descend

variable {β : Type} {dotted : Bool} {change : TableKind → Entries → Option (Entries × β)}
  {path : List String} {kind : TableKind} {entries entries' : Entries} {b : β}

/-- What a change does to the table at its place is done to the table that the path leads to, and
keys stay distinct on the way. The path may lead nowhere yet; then the change gets a table without
entries. -/
theorem descend_spec (Before After : Entries → Prop) (Result : β → Prop)
    (hchange : ∀ {kind : TableKind} {entries entries' : Entries} {b : β}, entries.Keyed →
      Before entries → change kind entries = some (entries', b) →
      entries'.Keyed ∧ After entries' ∧ Result b)
    (hnil : Before []) (h : entries.Keyed) (hbefore : ∀ inner, Reaches path entries inner → Before inner)
    (hdescend : descend dotted change path kind entries = some (entries', b)) :
    entries'.Keyed ∧ (∀ inner, Reaches path entries' inner → After inner) ∧ Result b := by
  induction path generalizing kind entries entries' with
  | nil =>
    obtain ⟨hkeyed, hafter, hresult⟩ := hchange h (hbefore _ .here) hdescend
    refine ⟨hkeyed, fun inner hinner ↦ ?_, hresult⟩
    cases hinner
    exact hafter
  | cons key path ih =>
    -- The child that the rest of the path changes is put where the table at `key` was.
    have put : ∀ {kind : TableKind} {child child' : Entries}, child.Keyed →
        (∀ inner, Reaches path child inner → Before inner) →
        descend dotted change path kind child = some (child', b) →
        (Value.table kind child').Keyed ∧ (∀ inner, Reaches path child' inner → After inner) ∧
          Result b := by
      intro kind child child' hkeyed hbefore hchild
      obtain ⟨hkeyed, hrest⟩ := ih hkeyed hbefore hchild
      exact ⟨Value.keyed_table_iff.2 hkeyed, hrest⟩
    simp only [descend] at hdescend
    split at hdescend
    case h_1 hnone =>
      obtain ⟨⟨child, b⟩, hchild, heq⟩ := Option.bind_eq_some_iff.1 hdescend
      cases heq
      obtain ⟨htable, hafter, hresult⟩ :=
        put .nil (fun inner hinner ↦ hinner.eq_of_nil ▸ hnil) hchild
      exact ⟨h.concat hnone htable, Reaches.forall_of_table (List.lookup_concat hnone) hafter,
        hresult⟩
    case h_2 => cases hdescend
    case h_3 kind child _ hlookup =>
      obtain ⟨-, -, hdescend⟩ := Option.bind_eq_some_iff.1 hdescend
      obtain ⟨⟨child', b⟩, hchild, heq⟩ := Option.bind_eq_some_iff.1 hdescend
      cases heq
      obtain ⟨htable, hafter, hresult⟩ := put (Value.keyed_table_iff.1 (h.of_lookup hlookup))
        (fun inner hinner ↦ hbefore inner (.table hlookup hinner)) hchild
      exact ⟨h.replace htable, Reaches.forall_of_table (Entries.lookup_replace hlookup) hafter,
        hresult⟩
    case h_4 items hlookup =>
      split at hdescend
      · rename_i kind child hlast
        obtain ⟨⟨child', b⟩, hchild, heq⟩ := Option.bind_eq_some_iff.1 hdescend
        cases heq
        have hitems := Value.keyed_array_iff.1 (h.of_lookup hlookup)
        obtain ⟨htable, hafter, hresult⟩ :=
          put (Value.keyed_table_iff.1 (hitems _ (List.mem_of_getLast? hlast)))
            (fun inner hinner ↦ hbefore inner (.array hlookup hlast hinner)) hchild
        refine ⟨h.replace (.array fun item hitem ↦ ?_),
          Reaches.forall_of_array (Entries.lookup_replace hlookup) List.getLast?_concat hafter, hresult⟩
        rcases List.mem_append.1 hitem with hitem | hitem
        · exact hitems item (List.dropLast_subset items hitem)
        · rwa [List.mem_singleton.1 hitem]
      · cases hdescend
    case h_5 => cases hdescend

/-- Keys stay distinct wherever a change keeps them so. -/
theorem descend_keyed
    (hchange : ∀ {kind : TableKind} {entries entries' : Entries} {b : β}, entries.Keyed →
      change kind entries = some (entries', b) → entries'.Keyed)
    (h : entries.Keyed) (hdescend : descend dotted change path kind entries = some (entries', b)) :
    entries'.Keyed :=
  (descend_spec (fun _ ↦ True) (fun _ ↦ True) (fun _ ↦ True)
    (fun h _ hsome ↦ ⟨hchange h hsome, trivial, trivial⟩) trivial h (fun _ _ ↦ trivial) hdescend).1

end Descend

/-! ### Values -/

/-- A step that goes on keeps an invariant, and one that is done has a result of some kind. -/
def Step.Keeps {σ α : Type} (Inv : σ → Prop) (Result : α → Prop) : Step σ α → Prop
  | .next state _ => Inv state
  | .done result _ => Result result
  | .fail => True

/-- What a loop of the parser ends with, by induction on the input that bounds it. -/
theorem iterateWithin_induct {σ α : Type} {step : σ → List Char → Step σ α} (Inv : σ → Prop)
    (Result : α → Prop) {state : σ} {bound input rest : List Char} {result : α}
    (hstep : ∀ state input, Inv state → (step state input).Keeps Inv Result) (h : Inv state)
    (hrun : iterateWithin step bound state input = some (result, rest)) : Result result := by
  induction bound generalizing state input with
  | nil =>
    have hkeeps := hstep state input h
    rw [iterateWithin] at hrun
    cases hone : step state input with
    | fail | next => simp [hone] at hrun
    | done =>
      rw [hone] at hrun hkeeps
      cases hrun
      exact hkeeps
  | cons c bound ih =>
    have hkeeps := hstep state input h
    rw [iterateWithin] at hrun
    cases hone : step state input with
    | fail => simp [hone] at hrun
    | done =>
      rw [hone] at hrun hkeeps
      cases hrun
      exact hkeeps
    | next =>
      rw [hone] at hrun hkeeps
      exact ih hkeeps hrun

/-- A scanner of values in whose tables no key stands twice. -/
def ScansKeyed (value? : Scanner Value) : Prop :=
  ∀ input value rest, value? input = some (value, rest) → value.Keyed

section Values

variable {kind : TableKind} {entries entries' : Entries} {key : List String} {value : Value}
  {items : List Value} {input rest : List Char} {scanner : Scanner Value}

/-- A key with dots is only added where it is vacant. -/
theorem insert?_keyed (h : entries.Keyed) (hvalue : value.Keyed)
    (hinsert : insert? kind entries key value = some entries') : entries'.Keyed := by
  obtain ⟨last, -, hinsert⟩ := Option.bind_eq_some_iff.1 hinsert
  obtain ⟨⟨inserted, u⟩, hdescend, heq⟩ := Option.bind_eq_some_iff.1 hinsert
  cases heq
  refine descend_keyed ?_ h hdescend
  intro kind entries entries' u h hchange
  obtain ⟨-, -, hchange⟩ := Option.bind_eq_some_iff.1 hchange
  obtain ⟨_, hnone, heq⟩ := Option.bind_eq_some_iff.1 hchange
  cases heq
  have hvacant := Option.isNone_iff_eq_none.1 ((Option.guard_eq_some' _).1 hnone)
  exact h.concat hvacant hvalue

/-- In the values between brackets no key stands twice. -/
theorem items?_keyed (hscanner : ScansKeyed scanner)
    (hitems : items? scanner input = some (items, rest)) : ∀ item ∈ items, item.Keyed := by
  refine iterateWithin_induct (fun items ↦ ∀ item ∈ items, Value.Keyed item)
    (fun items ↦ ∀ item ∈ items, item.Keyed) ?_ (by simp) hitems
  intro items input h
  split
  · trivial
  · simpa [Step.Keeps] using h
  · split
    · trivial
    · rename_i hvalue
      have hitem := hscanner _ _ _ hvalue
      split
      · simpa [Step.Keeps, or_imp, forall_and] using And.intro h hitem
      · exact List.forall_mem_cons.2 ⟨hitem, h⟩
      · trivial

/-- An assignment adds its value where its key is vacant. -/
theorem assignment_keyed (hscanner : ScansKeyed scanner) (h : entries.Keyed)
    (hentry : (do
      let (key, rest) ← key? input
      let (value, rest) ← scanner (skipBlanks (← expect? '=' rest))
      return (← insert? kind entries key value, skipBlanks rest)) = some (entries', rest)) :
    entries'.Keyed := by
  obtain ⟨⟨key, rest₁⟩, -, hentry⟩ := Option.bind_eq_some_iff.1 hentry
  obtain ⟨rest₂, -, hentry⟩ := Option.bind_eq_some_iff.1 hentry
  obtain ⟨⟨value, rest₃⟩, hvalue, hentry⟩ := Option.bind_eq_some_iff.1 hentry
  obtain ⟨inserted, hinsert, heq⟩ := Option.bind_eq_some_iff.1 hentry
  cases heq
  exact insert?_keyed h (hscanner _ _ _ hvalue) hinsert

/-- In a table between braces no key stands twice. -/
theorem inlineEntries?_keyed (hscanner : ScansKeyed scanner)
    (hentries : inlineEntries? scanner input = some (entries, rest)) : entries.Keyed := by
  rw [inlineEntries?] at hentries
  split at hentries
  · cases hentries
    exact .nil
  · refine iterateWithin_induct Entries.Keyed Entries.Keyed ?_ .nil hentries
    intro entries input h
    dsimp only
    split
    · rename_i hentry
      exact assignment_keyed hscanner h hentry
    · rename_i hentry
      exact assignment_keyed hscanner h hentry
    · trivial

theorem word?_keyed (h : word? input = some (value, rest)) : value.Keyed := by
  obtain ⟨word, hword, heq⟩ := Option.bind_eq_some_iff.1 h
  cases heq
  rw [ofWord?] at hword
  split_ifs at hword
  · cases hword; exact .boolean _
  · cases hword; exact .boolean _
  · cases hword; exact .datetime _
  · cases hword; exact .float _
  · obtain ⟨n, -, rfl⟩ := Option.map_eq_some_iff.1 hword
    exact .integer n

/-- No value holds a key twice, however deep it is nested. -/
theorem value?_keyed (depth : Nat) : ScansKeyed (value? depth) := by
  induction depth using Nat.strongRecOn with
  | ind depth ih =>
    intro input value rest h
    rw [value?.eq_def] at h
    split at h
    · obtain ⟨_, -, heq⟩ := Option.map_eq_some_iff.1 h
      cases heq
      exact .string _
    · obtain ⟨_, -, heq⟩ := Option.map_eq_some_iff.1 h
      cases heq
      exact .string _
    · -- Brackets are a level deeper.
      cases depth with
      | zero => cases h
      | succ depth =>
        obtain ⟨_, hitems, heq⟩ := Option.map_eq_some_iff.1 h
        cases heq
        exact .array (items?_keyed (ih depth (Nat.lt_succ_self depth)) hitems)
    · cases depth with
      | zero => cases h
      | succ depth =>
        obtain ⟨_, hentries, heq⟩ := Option.map_eq_some_iff.1 h
        cases heq
        exact Value.keyed_table_iff.2 (inlineEntries?_keyed (ih depth (Nat.lt_succ_self depth)) hentries)
    · exact word?_keyed h

end Values

/-! ### Documents -/

/-- What holds of a draft: no key stands twice, neither in the complete tables nor in the open one,
and no table stands yet where the open one goes. -/
structure Draft.Keyed (draft : Draft) : Prop where
  /-- The complete tables. -/
  root : draft.root.Keyed
  /-- The open table. -/
  entries : draft.current.entries.Keyed
  /-- The place of the open table, unless it is one more table of an array. -/
  vacant : draft.current.inArray = false → ∀ key, draft.current.path.getLast? = some key →
    ∀ inner, Reaches draft.current.path.dropLast draft.root inner → inner.lookup key = none

namespace Draft

variable {draft draft' : Draft} {entries : Entries} {path : List String} {input rest : List Char}

theorem keyed_start : Draft.start.Keyed where
  root := .nil
  entries := .nil
  vacant _ key hkey := by simp [start] at hkey

/-- The open table goes where its key is still vacant, or behind the other tables of its array. -/
theorem Keyed.finish? (h : draft.Keyed) (hfinish : draft.finish? = some entries) : entries.Keyed := by
  rw [Draft.finish?] at hfinish
  split at hfinish
  · cases hfinish
    exact h.entries
  · rename_i key hkey
    obtain ⟨⟨root, u⟩, hdescend, heq⟩ := Option.bind_eq_some_iff.1 hfinish
    cases heq
    have htable : (Value.table .header draft.current.entries).Keyed :=
      Value.keyed_table_iff.2 h.entries
    refine (descend_spec
      (fun inner ↦ draft.current.inArray = false → inner.lookup key = none)
      (fun _ ↦ True) (fun _ ↦ True) ?_ (fun _ ↦ rfl) h.root
      (fun inner hinner hsingle ↦ h.vacant hsingle key hkey inner hinner) hdescend).1
    intro kind inner inner' u hinner hvacant hchange
    refine ⟨?_, trivial, trivial⟩
    split at hchange
    · split at hchange
      · rename_i items hlookup
        cases hchange
        have hitems := Value.keyed_array_iff.1 (hinner.of_lookup hlookup)
        refine hinner.replace (.array fun item hitem ↦ ?_)
        rcases List.mem_append.1 hitem with hitem | hitem
        · exact hitems item hitem
        · rwa [List.mem_singleton.1 hitem]
      · cases hchange
    · rename_i hsingle
      cases hchange
      exact hinner.concat (hvacant (by simpa using hsingle)) htable

/-- A header takes its table out of where it is put when it is complete, or opens one where none is. -/
theorem Keyed.openTable? (h : draft.Keyed) (hopen : draft.openTable? path = some draft') :
    draft'.Keyed := by
  obtain ⟨root, hfinish, hopen⟩ := Option.bind_eq_some_iff.1 hopen
  obtain ⟨key, hkey, hopen⟩ := Option.bind_eq_some_iff.1 hopen
  obtain ⟨⟨root', entries⟩, hdescend, heq⟩ := Option.bind_eq_some_iff.1 hopen
  cases heq
  obtain ⟨hroot, hvacant, hentries⟩ := descend_spec (fun _ ↦ True)
    (fun inner ↦ inner.lookup key = none) Entries.Keyed (by
      intro kind inner inner' child hinner _ hchange
      split at hchange
      · rename_i hnone
        cases hchange
        exact ⟨hinner, hnone, .nil⟩
      · rename_i hlookup
        cases hchange
        exact ⟨hinner.without, Entries.lookup_without,
          Value.keyed_table_iff.1 (hinner.of_lookup hlookup)⟩
      · cases hchange) trivial (h.finish? hfinish) (fun _ _ ↦ trivial) hdescend
  refine ⟨hroot, hentries, fun _ key' hkey' ↦ ?_⟩
  cases hkey.symm.trans hkey'
  exact hvacant

/-- A header in double brackets opens a table that is not in its array yet. -/
theorem Keyed.openItem? (h : draft.Keyed) (hopen : draft.openItem? path = some draft') :
    draft'.Keyed := by
  obtain ⟨root, hfinish, hopen⟩ := Option.bind_eq_some_iff.1 hopen
  obtain ⟨key, hkey, hopen⟩ := Option.bind_eq_some_iff.1 hopen
  obtain ⟨⟨root', u⟩, hdescend, heq⟩ := Option.bind_eq_some_iff.1 hopen
  cases heq
  refine ⟨?_, .nil, fun hsingle ↦ by cases hsingle⟩
  refine descend_keyed ?_ (h.finish? hfinish) hdescend
  intro kind inner inner' u hinner hchange
  split at hchange
  · rename_i hnone
    cases hchange
    exact hinner.concat hnone (.array (by simp))
  · cases hchange
    exact hinner
  · cases hchange

theorem Keyed.insert? {key : List String} {value : Value} (h : draft.Keyed) (hvalue : value.Keyed)
    (hinsert : draft.insert? key value = some draft') : draft'.Keyed := by
  obtain ⟨entries, hentries, heq⟩ := Option.bind_eq_some_iff.1 hinsert
  cases heq
  exact ⟨h.root, insert?_keyed h.entries hvalue hentries, h.vacant⟩

theorem Keyed.line? (h : draft.Keyed) (hline : line? draft input = some (draft', rest)) :
    draft'.Keyed := by
  rw [Toml.line?.eq_def] at hline
  split at hline
  · obtain ⟨⟨path, rest₁⟩, -, hline⟩ := Option.bind_eq_some_iff.1 hline
    obtain ⟨rest₂, -, hline⟩ := Option.bind_eq_some_iff.1 hline
    obtain ⟨rest₃, -, hline⟩ := Option.bind_eq_some_iff.1 hline
    obtain ⟨rest₄, -, hline⟩ := Option.bind_eq_some_iff.1 hline
    obtain ⟨_, hopen, heq⟩ := Option.bind_eq_some_iff.1 hline
    cases heq
    exact h.openItem? hopen
  · obtain ⟨⟨path, rest₁⟩, -, hline⟩ := Option.bind_eq_some_iff.1 hline
    obtain ⟨rest₂, -, hline⟩ := Option.bind_eq_some_iff.1 hline
    obtain ⟨rest₃, -, hline⟩ := Option.bind_eq_some_iff.1 hline
    obtain ⟨_, hopen, heq⟩ := Option.bind_eq_some_iff.1 hline
    cases heq
    exact h.openTable? hopen
  · obtain ⟨⟨key, rest₁⟩, -, hline⟩ := Option.bind_eq_some_iff.1 hline
    obtain ⟨rest₂, -, hline⟩ := Option.bind_eq_some_iff.1 hline
    obtain ⟨⟨value, rest₃⟩, hvalue, hline⟩ := Option.bind_eq_some_iff.1 hline
    obtain ⟨rest₄, -, hline⟩ := Option.bind_eq_some_iff.1 hline
    obtain ⟨_, hinsert, heq⟩ := Option.bind_eq_some_iff.1 hline
    cases heq
    exact h.insert? (value?_keyed _ _ _ _ hvalue) hinsert

end Draft

/-- **No table of a document holds a key twice.** -/
theorem parse?_keyed : ParsesKeyed parse? := by
  intro text entries h
  obtain ⟨⟨draft, rest⟩, hrun, hfinish⟩ := Option.bind_eq_some_iff.1 h
  refine Draft.Keyed.finish? ?_ hfinish
  refine iterateWithin_induct Draft.Keyed Draft.Keyed ?_ Draft.keyed_start hrun
  intro draft input hdraft
  split
  · exact hdraft
  · exact hdraft
  · split
    · rename_i hline
      exact hdraft.line? hline
    · trivial

end Conduit.Toml
