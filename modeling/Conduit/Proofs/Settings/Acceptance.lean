import Conduit.Proofs.Arena.Circulation
import Conduit.Proofs.Settings.Overlay
import Conduit.Proofs.Toml.Parsing

/-!
# Which settings are accepted

A document is judged in two stages. First its entries have to have the form of settings. They then stand
for just one record (`Settings.Overlays`). Second this record has to meet conditions, the first of which
that is violated is reported (`Settings.requirements`). Neither stage depends on the order in which the
document gives its sections and keys (`Settings.Reordered`).

The conditions on the arena's bounds are what the arena's arithmetic needs: with accepted limits it has at
most 31 classes, and no pooled class is above one gibibyte (`Arena.Bounded`).

All that is needed of the parser by which a document is read is that it gives no key twice
(`Toml.ParsesKeyed`).
-/

namespace Conduit

namespace Settings

/-! ### Conditions -/

/-- A condition on settings, and how it is reported when it is violated. -/
structure Requirement where
  /-- The field that is named. -/
  field : SettingsField
  /-- What is said to be wrong with it. -/
  problem : SettingsProblem
  /-- Whether settings meet the condition. -/
  holds : Settings → Bool

/-- All conditions, in the order in which they are checked. -/
def requirements : List Requirement :=
  [⟨.workerThreads, .notAtLeastOne, fun s ↦ 1 ≤ s.worker.threads⟩,
    ⟨.workerNamePrefix, .blank, fun s ↦ !Text.isBlank s.worker.namePrefix⟩,
    ⟨.arenaMinClassBytes, .notPositive, fun s ↦ 1 ≤ s.worker.arenaMinClassBytes⟩,
    ⟨.arenaMaxClassBytes, .belowArenaMinimum,
      fun s ↦ s.worker.arenaMinClassBytes ≤ s.worker.arenaMaxClassBytes⟩,
    ⟨.arenaMaxClassBytes, .aboveOneGibibyte, fun s ↦ s.worker.arenaMaxClassBytes ≤ 2 ^ 30⟩,
    ⟨.chainMaxConsecutiveReruns, .notAtLeastOne, fun s ↦ 1 ≤ s.chain.maxConsecutiveReruns⟩,
    ⟨.attributeSlotLimit, .notAtLeastOne, fun s ↦ 1 ≤ s.attributes.slotLimit⟩]

/-- Checks conditions one after another. -/
def check (settings : Settings) : List Requirement → Except SettingsError Unit
  | [] => .ok ()
  | r :: rest => if r.holds settings then settings.check rest else .error (.invalid r.field r.problem)

/-- A condition is the first of a list that settings violate. -/
def FirstViolated (settings : Settings) (list : List Requirement) (r : Requirement) : Prop :=
  ∃ earlier later, list = earlier ++ r :: later ∧ (∀ q ∈ earlier, q.holds settings) ∧
    r.holds settings = false

section Check

variable {settings : Settings} {list : List Requirement}

/-- The conditions are checked one after another, each where the settings have it. -/
theorem validate_eq_check (settings : Settings) : settings.validate = settings.check requirements := by
  obtain ⟨worker, chain, attributes⟩ := settings
  simp only [validate, WorkerSettings.validate, ChainSettings.validate, AttributeSettings.validate,
    requirements, check, throw, throwThe, MonadExceptOf.throw, bind, Except.bind, pure, Except.pure,
    Nat.one_le_iff_ne_zero, ← Nat.not_le, Nat.pow_eq, decide_eq_true_eq, Bool.not_eq_true', ite_not,
    ne_eq]
  -- The first condition that is violated decides both sides.
  by_cases hthreads : worker.threads = 0
  · simp [hthreads]
  by_cases hprefix : Text.isBlank worker.namePrefix
  · simp [hthreads, hprefix]
  by_cases hmin : worker.arenaMinClassBytes = 0
  · simp [hthreads, hprefix, hmin]
  by_cases hmax : worker.arenaMinClassBytes ≤ worker.arenaMaxClassBytes
  · by_cases hlarge : worker.arenaMaxClassBytes ≤ 2 ^ 30
    · by_cases hreruns : chain.maxConsecutiveReruns = 0
      · simp only [hthreads, hprefix, hmin, hmax, hlarge, hreruns, if_true, if_false]
        simp
      · simp only [hthreads, hprefix, hmin, hmax, hlarge, hreruns, if_true, if_false]
        simp
    · simp only [hthreads, hprefix, hmin, hmax, hlarge, if_true, if_false]
      simp
  · simp only [hthreads, hprefix, hmin, hmax, if_true, if_false]
    simp

/-- Settings are accepted when they meet all conditions. -/
theorem check_eq_ok_iff : settings.check list = .ok () ↔ ∀ r ∈ list, r.holds settings := by
  induction list with
  | nil => simp [check]
  | cons r list ih =>
    rw [check, List.forall_mem_cons]
    cases r.holds settings with
    | true => simpa using ih
    | false => simp

/-- Conditions that are met do not matter. -/
theorem check_append {earlier : List Requirement} (h : ∀ q ∈ earlier, q.holds settings) :
    settings.check (earlier ++ list) = settings.check list := by
  induction earlier with
  | nil => rfl
  | cons q earlier ih =>
    rw [List.cons_append, check, if_pos (h q List.mem_cons_self)]
    exact ih fun q hq ↦ h q (List.mem_cons_of_mem _ hq)

/-- What is reported is the first condition that is violated. -/
theorem check_eq_error_iff {e : SettingsError} :
    settings.check list = .error e ↔
      ∃ r, settings.FirstViolated list r ∧ e = .invalid r.field r.problem := by
  constructor
  · intro hcheck
    induction list with
    | nil => cases hcheck
    | cons q list ih =>
      rw [check] at hcheck
      split at hcheck
      · next hq =>
        obtain ⟨r, ⟨earlier, later, rfl, hearlier, hr⟩, he⟩ := ih hcheck
        exact ⟨r, ⟨q :: earlier, later, rfl, List.forall_mem_cons.2 ⟨hq, hearlier⟩, hr⟩, he⟩
      · next hq =>
        cases hcheck
        exact ⟨q, ⟨[], list, rfl, nofun, by simpa using hq⟩, rfl⟩
  · rintro ⟨r, ⟨earlier, later, rfl, hearlier, hr⟩, rfl⟩
    rw [check_append hearlier, check, if_neg (by simp [hr])]

end Check

/-! ### The order of keys -/

/-- Two values that are the same but for the order of the keys of a table, and for how it is written. -/
def SameValue (value other : Toml.Value) : Prop :=
  value = other ∨ ∃ kind kind' inner inner', value = .table kind inner ∧ other = .table kind' inner' ∧
    inner.Perm inner'

/-- The same sections in any order, each with the same keys in any order. -/
def Reordered (entries other : Toml.Entries) : Prop :=
  ∃ moved, entries.Perm moved ∧
    List.Forall₂ (fun e f ↦ e.1 = f.1 ∧ SameValue e.2 f.2) moved other

section Reordered

variable {entries other : Toml.Entries} {settings : Settings}

/-- Two tables with the same keys in the same order have related values under each of them. -/
theorem lookup_rel_of_forall₂ {R : Toml.Value → Toml.Value → Prop}
    (h : List.Forall₂ (fun e f ↦ e.1 = f.1 ∧ R e.2 f.2) entries other) (name : String) :
    Option.Rel R (entries.lookup name) (other.lookup name) := by
  induction h with
  | nil => exact .none
  | @cons e f _ _ hsame _ ih =>
    obtain ⟨key, value⟩ := e
    obtain ⟨key', value'⟩ := f
    obtain ⟨rfl, hvalue⟩ := hsame
    rw [List.lookup_cons, List.lookup_cons]
    cases name == key with
    | true => exact .some hvalue
    | false => exact ih

/-- Under any name stands the same value, but for the order of its keys. -/
theorem Reordered.lookup (h : Reordered entries other) (hkeyed : entries.Keyed) (name : String) :
    Option.Rel SameValue (entries.lookup name) (other.lookup name) := by
  obtain ⟨moved, hperm, hsame⟩ := h
  rw [List.lookup_eq_of_perm hkeyed.nodup hperm]
  exact lookup_rel_of_forall₂ hsame name

theorem Reordered.below_perm (h : Reordered entries other) (hkeyed : entries.Keyed) (name : String) :
    (entries.below name).Perm (other.below name) := by
  have hrel := h.lookup hkeyed name
  unfold Toml.Entries.below
  generalize entries.lookup name = given at hrel ⊢
  generalize other.lookup name = given' at hrel ⊢
  cases hrel with
  | none => exact .refl _
  | some hsame =>
    rcases hsame with rfl | ⟨kind, kind', inner, inner', rfl, rfl, hperm⟩
    · exact .refl _
    · exact hperm

theorem Reordered.mem_keys_iff (h : Reordered entries other) (hkeyed : entries.Keyed) (name : String) :
    name ∈ entries.map Prod.fst ↔ name ∈ other.map Prod.fst := by
  have hrel := h.lookup hkeyed name
  rw [← not_iff_not, ← List.lookup_eq_none_iff_not_mem, ← List.lookup_eq_none_iff_not_mem]
  generalize entries.lookup name = given at hrel ⊢
  generalize other.lookup name = given' at hrel ⊢
  cases hrel <;> simp

/-- Whether entries have the form of settings does not depend on their order. -/
theorem Reordered.fits_iff (h : Reordered entries other) (hkeyed : entries.Keyed) :
    Fits entries ↔ Fits other := by
  have hnames : (∀ e ∈ entries, e.1 ∈ ["worker", "chain", "attributes"]) ↔
      ∀ e ∈ other, e.1 ∈ ["worker", "chain", "attributes"] := by
    refine List.forall_mem_map.symm.trans (Iff.trans ?_ List.forall_mem_map)
    exact forall_congr' fun name ↦ imp_congr_left (h.mem_keys_iff hkeyed name)
  have hsection : ∀ {σ : Type} (rows : List (FieldRow σ)) (name : String),
      FieldRow.Fits rows (entries.below name) ↔ FieldRow.Fits rows (other.below name) :=
    fun rows name ↦ forall_congr' fun e ↦ imp_congr_left (h.below_perm hkeyed name).mem_iff
  rw [Settings.fits_iff, Settings.fits_iff, hnames, hsection, hsection, hsection]

/-- Neither does what settings they give. -/
theorem Reordered.overlays_iff (h : Reordered entries other) (hkeyed : entries.Keyed) :
    Overlays entries settings ↔ Overlays other settings := by
  have hsection : ∀ {σ : Type} (rows : List (FieldRow σ)) (start r : σ) (name : String),
      FieldRow.Overlays rows start (entries.below name) r ↔
        FieldRow.Overlays rows start (other.below name) r := by
    intro σ rows start r name
    have hlookup := List.lookup_eq_of_perm (hkeyed.below name).nodup (h.below_perm hkeyed name)
    simp only [FieldRow.Overlays, hlookup]
  rw [Settings.overlays_iff, Settings.overlays_iff, hsection, hsection, hsection]

/-- Nor whether sections are tables. -/
theorem Reordered.hasTables (h : Reordered entries other) (hkeyed : entries.Keyed)
    (hkeyed' : other.Keyed) (htables : HasTables entries) : HasTables other := by
  rintro ⟨name, value'⟩ hmem hname
  have hrel := h.lookup hkeyed name
  rw [List.lookup_of_mem hkeyed'.nodup hmem] at hrel
  cases hlookup : entries.lookup name with
  | none =>
    rw [hlookup] at hrel
    cases hrel
  | some value =>
    rw [hlookup] at hrel
    obtain ⟨kind, inner, heq⟩ := htables _ (List.mem_of_lookup hlookup) hname
    cases hrel with
    | some hsame =>
      rcases hsame with rfl | ⟨-, kind', -, inner', -, rfl, -⟩
      · exact ⟨kind, inner, heq⟩
      · exact ⟨kind', inner', rfl⟩

end Reordered

end Settings

/-- What an arena with accepted limits never exceeds. -/
structure Arena.Bounded (arena : Arena) : Prop where
  classes : arena.lists.length ≤ 31
  /-- A request for a pooled class that finds no buffer on its list is served by an allocation. -/
  allocated : ∀ class_, arena.serving class_ ≤ arena.maxShift → arena.list (arena.serving class_) = [] →
    ∃ capacity ≤ 2 ^ 30, Arena.take class_ arena = (.ok ⟨capacity, []⟩, arena.countFresh)

/-- With bounds on the pooled classes there are bounds on the lists and on what is allocated. -/
theorem Arena.Pooled.bounded {limits : ArenaLimits} {arena : Arena} (h : arena.Pooled limits)
    (hmin : limits.minClassBytes ≤ limits.maxClassBytes) (hmax : limits.maxClassBytes ≤ 2 ^ 30) :
    arena.Bounded := by
  have hshift : arena.maxShift ≤ 30 := by
    rw [h.maxShift_eq, Nat.max_eq_left hmin]
    exact (SizeClass.shift_forCapacity_le_iff (by decide)).2 hmax
  refine ⟨by rw [h.length_eq]; omega, fun class_ hpooled hempty ↦ ?_⟩
  have hserving : arena.serving class_ ≤ 30 := Nat.le_trans hpooled hshift
  have hbytes : 2 ^ arena.serving class_ ≤ 2 ^ 30 := Nat.pow_le_pow_right Nat.two_pos hserving
  refine ⟨2 ^ arena.serving class_, hbytes, ?_⟩
  rcases Arena.take_cases class_ arena with ⟨_, _, -, hlist, -⟩ | ⟨-, -, heq⟩ | ⟨hover, -⟩
  · rw [hempty] at hlist
    cases hlist
  · rw [heq, SizeClass.ofShift_of_le (Nat.le_trans hserving (by decide))]
    exact congrArg (·, _) (Scratch.allocate_of_lt (Nat.lt_of_le_of_lt hbytes (by decide)))
  · omega

namespace Settings

/-- What comes of a document that a parser reads as these entries. -/
structure Judged (parse? : String → Option Toml.Entries) (document : String) (entries : Toml.Entries) :
    Prop where
  /-- It is accepted when the entries have the form of settings, and the settings that they give over
  the defaults meet all conditions. -/
  accepted : ∀ settings, ofToml parse? document = .ok settings ↔
    Fits entries ∧ Overlays entries settings ∧ ∀ r ∈ requirements, r.holds settings
  /-- It cannot be read when the entries do not have that form, whatever else is wrong. -/
  unread : ofToml parse? document = .error .parse ↔ ¬ Fits entries
  /-- Otherwise the first condition that is violated is named. -/
  invalid : ∀ field problem, ofToml parse? document = .error (.invalid field problem) ↔
    Fits entries ∧ ∃ settings r, Overlays entries settings ∧ settings.FirstViolated requirements r ∧
      r.field = field ∧ r.problem = problem
  /-- The order of sections and keys does not matter. -/
  order : ∀ document' entries', parse? document' = some entries' → Reordered entries entries' →
    ofToml parse? document' = ofToml parse? document
  /-- Whatever is done to an arena with accepted limits, it stays within bounds. -/
  arena : ∀ settings, ofToml parse? document = .ok settings →
    ∀ ops, ((Circulation.new settings.worker.arenaLimits).run ops).arena.Bounded

section OfToml

variable {parse? : String → Option Toml.Entries} {document : String} {entries : Toml.Entries}
  {settings : Settings}

/-- Entries that do not have the form of settings cannot be read. Otherwise they give settings, which
the conditions accept or refuse. -/
theorem ofToml_cases (hkeyed : entries.Keyed) (hparse : parse? document = some entries)
    (htables : HasTables entries) :
    (¬ Fits entries ∧ ofToml parse? document = .error .parse) ∨
      Fits entries ∧ ∃ settings, (∀ other, Overlays entries other ↔ other = settings) ∧
        ofToml parse? document = (settings.check requirements).map fun _ ↦ settings := by
  have hread : ∀ settings, Settings.section.ofEntries entries = some settings ↔
      Fits entries ∧ Overlays entries settings := fun _ ↦ ofEntries_iff hkeyed htables
  have hdocument : ofToml parse? document = ofEntries entries := by simp [ofToml, hparse]
  rw [hdocument]
  cases hentries : Settings.section.ofEntries entries with
  | none =>
    refine .inl ⟨fun hfits ↦ ?_, by rw [ofEntries, hentries]; rfl⟩
    obtain ⟨settings, hoverlays⟩ := hfits.exists_overlays hkeyed
    cases hentries.symm.trans ((hread settings).2 ⟨hfits, hoverlays⟩)
  | some settings =>
    obtain ⟨hfits, -⟩ := (hread settings).1 hentries
    refine .inr ⟨hfits, settings, fun other ↦ ?_, ?_⟩
    · rw [← and_iff_right (b := Overlays entries other) hfits, ← hread, hentries, Option.some_inj,
        eq_comm]
    · rw [ofEntries, hentries, ← validate_eq_check]
      show (settings.validate >>= fun _ ↦ Except.ok settings) = _
      cases settings.validate <;> rfl

/-- A document is accepted when its entries have the form of settings, and the settings meet all
conditions. -/
theorem ofToml_eq_ok_iff (hkeyed : entries.Keyed) (hparse : parse? document = some entries)
    (htables : HasTables entries) :
    ofToml parse? document = .ok settings ↔
      Fits entries ∧ Overlays entries settings ∧ ∀ r ∈ requirements, r.holds settings := by
  rcases ofToml_cases hkeyed hparse htables with ⟨hnot, heq⟩ | ⟨hfits, given, honly, heq⟩
  · rw [heq]
    exact iff_of_false nofun fun h ↦ hnot h.1
  · rw [heq, honly, and_iff_right hfits, ← check_eq_ok_iff]
    constructor
    · intro hok
      cases hcheck : given.check requirements with
      | ok =>
        rw [hcheck] at hok
        cases hok
        exact ⟨rfl, hcheck⟩
      | error => simp [hcheck, Except.map] at hok
    · rintro ⟨rfl, hcheck⟩
      rw [hcheck]
      rfl

/-- It is refused for the first condition that its settings violate. -/
theorem ofToml_eq_invalid_iff (hkeyed : entries.Keyed) (hparse : parse? document = some entries)
    (htables : HasTables entries) {field : SettingsField} {problem : SettingsProblem} :
    ofToml parse? document = .error (.invalid field problem) ↔
      Fits entries ∧ ∃ settings r, Overlays entries settings ∧ settings.FirstViolated requirements r ∧
        r.field = field ∧ r.problem = problem := by
  rcases ofToml_cases hkeyed hparse htables with ⟨hnot, heq⟩ | ⟨hfits, given, honly, heq⟩
  · rw [heq]
    exact iff_of_false nofun fun h ↦ hnot h.1
  · rw [heq, and_iff_right hfits]
    constructor
    · intro herror
      cases hcheck : given.check requirements with
      | ok => simp [hcheck, Except.map] at herror
      | error e =>
        rw [hcheck] at herror
        cases herror
        obtain ⟨r, hr, he⟩ := check_eq_error_iff.1 hcheck
        cases he
        exact ⟨given, r, (honly given).2 rfl, hr, rfl, rfl⟩
    · rintro ⟨settings, r, hoverlays, hr, rfl, rfl⟩
      obtain rfl := (honly settings).1 hoverlays
      rw [check_eq_error_iff.2 ⟨r, hr, rfl⟩]
      rfl

/-- It cannot be read when its entries do not have the form of settings. -/
theorem ofToml_eq_parse_iff (hkeyed : entries.Keyed) (hparse : parse? document = some entries)
    (htables : HasTables entries) : ofToml parse? document = .error .parse ↔ ¬ Fits entries := by
  rcases ofToml_cases hkeyed hparse htables with ⟨hnot, heq⟩ | ⟨hfits, given, -, heq⟩
  · exact iff_of_true heq hnot
  · rw [heq]
    refine iff_of_false (fun herror ↦ ?_) (not_not_intro hfits)
    cases hcheck : given.check requirements with
    | ok => simp [hcheck, Except.map] at herror
    | error e =>
      rw [hcheck] at herror
      cases herror
      obtain ⟨r, -, he⟩ := check_eq_error_iff.1 hcheck
      cases he

/-- A document with its sections and keys in another order is judged alike. -/
theorem Reordered.ofToml_eq {document' : String} {entries' : Toml.Entries}
    (h : Reordered entries entries') (hkeyed : entries.Keyed) (hkeyed' : entries'.Keyed)
    (hparse : parse? document = some entries) (hparse' : parse? document' = some entries')
    (htables : HasTables entries) :
    ofToml parse? document' = ofToml parse? document := by
  have htables' := h.hasTables hkeyed hkeyed' htables
  rcases ofToml_cases hkeyed hparse htables with ⟨hnot, heq⟩ | ⟨hfits, given, honly, heq⟩ <;>
    rcases ofToml_cases hkeyed' hparse' htables' with ⟨hnot', heq'⟩ | ⟨hfits', given', honly', heq'⟩
  · exact heq'.trans heq.symm
  · exact (hnot ((h.fits_iff hkeyed).2 hfits')).elim
  · exact (hnot' ((h.fits_iff hkeyed).1 hfits)).elim
  · obtain rfl := (honly' given).1 ((h.overlays_iff hkeyed).1 ((honly given).2 rfl))
    exact heq'.trans heq.symm

theorem bounded_of_holds (hholds : ∀ r ∈ requirements, r.holds settings) (ops : List CirculationOp) :
    ((Circulation.new settings.worker.arenaLimits).run ops).arena.Bounded := by
  simp only [requirements, List.forall_mem_cons, decide_eq_true_eq] at hholds
  obtain ⟨-, -, -, hmin, hmax, -⟩ := hholds
  exact ((Circulation.sound_new _).run ops).pooled.bounded hmin hmax

end OfToml

/-- **Which settings are accepted**, for every document that is TOML and has tables for sections, and by
whatever parser it is read that gives no key twice. -/
theorem judged_ofToml {parse? : String → Option Toml.Entries} (hparser : Toml.ParsesKeyed parse?)
    (document : String) {entries : Toml.Entries} (hparse : parse? document = some entries)
    (htables : HasTables entries) : Judged parse? document entries := by
  have hkeyed := hparser document entries hparse
  exact
    { accepted := fun _ ↦ ofToml_eq_ok_iff hkeyed hparse htables
      unread := ofToml_eq_parse_iff hkeyed hparse htables
      invalid := fun _ _ ↦ ofToml_eq_invalid_iff hkeyed hparse htables
      order := fun document' entries' hparse' h ↦
        h.ofToml_eq hkeyed (hparser document' entries' hparse') hparse hparse' htables
      arena := fun _ hok ↦ bounded_of_holds ((ofToml_eq_ok_iff hkeyed hparse htables).1 hok).2.2 }

/-- A document with a section in braces and one under a header. -/
def zeroSlots : String :=
  "attributes = \x7b slot_limit = 0 \x7d\n[worker]\nthreads = 2\n"

/-- What it is read as. -/
def zeroSlotsEntries : Toml.Entries :=
  [("attributes", .table .inline [("slot_limit", .integer 0)]),
    ("worker", .table .header [("threads", .integer 2)])]

/-- The parser of this library gives no key twice, and reads this document. -/
theorem judged_ofToml_zeroSlots :
    Toml.ParsesKeyed Toml.parse? ∧ Toml.parse? zeroSlots = some zeroSlotsEntries ∧
      HasTables zeroSlotsEntries ∧ Judged Toml.parse? zeroSlots zeroSlotsEntries := by
  have hparse : Toml.parse? zeroSlots = some zeroSlotsEntries := rfl
  have htables : HasTables zeroSlotsEntries := by simp [HasTables, zeroSlotsEntries]
  exact ⟨Toml.parse?_keyed, hparse, htables, judged_ofToml Toml.parse?_keyed zeroSlots hparse htables⟩

example : ofToml Toml.parse? zeroSlots = .error (.invalid .attributeSlotLimit .notAtLeastOne) := by
  decide +kernel

end Settings

end Conduit
