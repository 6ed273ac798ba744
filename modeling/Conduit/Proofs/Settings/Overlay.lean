import Conduit.Proofs.Settings.Sections
import Mathlib.Tactic.MkIffOfInductiveProp

/-!
# What settings a document gives

The entries of a document have the form of settings when every key at both levels is that of a field, and
every value is one that its field may hold (`Settings.Fits`). Such entries stand for just one record: the
given values over the defaults (`Settings.Overlays`, `Settings.ofEntries_iff`).

What the fields are is told once, in tables with one row for each (`WorkerSettings.rows` and so on). The
readers of the fields are compared with their rows, and everything else follows from the rows.
-/

namespace Conduit

/-! ### What fields may hold -/

/-- What a field of a section holds. -/
inductive FieldType where
  /-- A number below a bound. -/
  | number (bound : Nat)
  /-- A text. -/
  | text

/-- The values of a type. -/
def FieldType.Admits : FieldType → Toml.Value → Prop
  | .number bound, .integer n => 0 ≤ n ∧ n < bound
  | .text, .string _ => True
  | _, _ => False

instance (type : FieldType) (value : Toml.Value) : Decidable (type.Admits value) := by
  cases type <;> cases value <;> unfold FieldType.Admits <;> infer_instance

/-- A field of a section. -/
structure FieldRow (σ : Type) where
  /-- The key of the field. -/
  key : String
  /-- What it holds. -/
  type : FieldType
  /-- What a record has in it, as it would be written. -/
  shown : σ → Toml.Value

namespace FieldRow

variable {σ : Type}

/-- Every key is that of a field, and every value is one that the field may hold. -/
def Fits (rows : List (FieldRow σ)) (entries : Toml.Entries) : Prop :=
  ∀ e ∈ entries, ∃ row ∈ rows, row.key = e.1 ∧ row.type.Admits e.2

/-- A record has what the table gives for a field, and otherwise what another record has. -/
def Overlays (rows : List (FieldRow σ)) (start : σ) (entries : Toml.Entries) (r : σ) : Prop :=
  ∀ row ∈ rows, row.shown r = (entries.lookup row.key).getD (row.shown start)

/-- A field whose values are kept as they are written. -/
def view (row : FieldRow σ) : FieldView σ where
  key := row.key
  given? value := if row.type.Admits value then some value else none
  held := row.shown

variable {rows : List (FieldRow σ)} {views : List (FieldView σ)} {entries : Toml.Entries} {r : σ}
  {key : String}

theorem view_given?_eq_none_iff {row : FieldRow σ} {value : Toml.Value} :
    row.view.given? value = none ↔ ¬ row.type.Admits value := by
  simp [view]

theorem view_given?_eq_some_iff {row : FieldRow σ} {value given : Toml.Value} :
    row.view.given? value = some given ↔ row.type.Admits value ∧ value = given := by
  show (if row.type.Admits value then some value else none) = some given ↔ _
  simp

theorem knows_map_view_iff {e : String × Toml.Value} :
    FieldView.Knows (rows.map view) e ↔ ∃ row ∈ rows, row.key = e.1 ∧ row.type.Admits e.2 := by
  simp [FieldView.Knows, view]

/-- In a table that fits, the value under a field's key is one that the field may hold, so it is kept. -/
theorem Fits.overlay_view (hfits : Fits rows entries) (hnodup : (rows.map FieldRow.key).Nodup)
    {row : FieldRow σ} (hrow : row ∈ rows) (start : σ) :
    row.view.overlay entries start = (entries.lookup row.key).getD (row.shown start) := by
  show ((entries.lookup row.key).bind row.view.given?).getD _ = _
  cases hlookup : entries.lookup row.key with
  | none => rfl
  | some value =>
    obtain ⟨other, hother, hkey, hadmits⟩ := hfits _ (List.mem_of_lookup hlookup)
    obtain rfl := List.inj_on_of_nodup_map hnodup hother hrow hkey
    simp [view, hadmits]

/-- A reader of numbers below a bound is that of a field of such numbers. -/
theorem readBy_number {put : Nat → σ → σ} {get : σ → Nat} {bound : Nat}
    (hget : ∀ n acc, get (put n acc) = n)
    (hothers : ∀ n acc, ∀ other ∈ views, other.key ≠ key → other.held (put n acc) = other.held acc) :
    (FieldRow.view ⟨key, .number bound, fun s ↦ .integer (get s)⟩).ReadBy views
      (.number bound put) := by
  constructor
  · intro value acc hgiven
    have hnot := view_given?_eq_none_iff.1 hgiven
    cases value with
    | integer n => exact if_neg hnot
    | _ => rfl
  · intro value acc given hgiven
    obtain ⟨hadmits, rfl⟩ := view_given?_eq_some_iff.1 hgiven
    cases value with
    | integer n =>
      refine ⟨put n.toNat acc, if_pos hadmits, ?_, hothers n.toNat acc⟩
      show Toml.Value.integer (get (put n.toNat acc)) = .integer n
      rw [hget, Int.toNat_of_nonneg hadmits.1]
    | _ => exact hadmits.elim

theorem readBy_text {put : String → σ → σ} {get : σ → String} (hget : ∀ text acc, get (put text acc) = text)
    (hothers : ∀ text acc, ∀ other ∈ views, other.key ≠ key →
      other.held (put text acc) = other.held acc) :
    (FieldRow.view ⟨key, .text, fun s ↦ .string (get s)⟩).ReadBy views (.text put) := by
  constructor
  · intro value acc hgiven
    have hnot := view_given?_eq_none_iff.1 hgiven
    cases value with
    | string text => exact (hnot trivial).elim
    | _ => rfl
  · intro value acc given hgiven
    obtain ⟨hadmits, rfl⟩ := view_given?_eq_some_iff.1 hgiven
    cases value with
    | string text =>
      exact ⟨put text acc, rfl, congrArg Toml.Value.string (hget text acc), hothers text acc⟩
    | _ => exact hadmits.elim

end FieldRow

/-- **Reading a section**. -/
theorem Section.ofEntries_iff {σ : Type} {s : Section σ} {rows : List (FieldRow σ)}
    {entries : Toml.Entries} {r : σ} (h : s.ViewedAs (rows.map FieldRow.view))
    (hnodup : (entries.map Prod.fst).Nodup) :
    s.ofEntries entries = some r ↔
      FieldRow.Fits rows entries ∧ FieldRow.Overlays rows s.start entries r := by
  have hrows : (rows.map FieldRow.key).Nodup := by
    have := h.nodup
    rwa [List.map_map] at this
  rw [h.ofEntries_eq_some_iff hnodup]
  simp only [FieldRow.knows_map_view_iff]
  refine and_congr_right fun hfits ↦ ?_
  rw [List.forall_mem_map]
  refine forall₂_congr fun row hrow ↦ ?_
  rw [FieldRow.Fits.overlay_view hfits hrows hrow]
  rfl

/-- A table that fits gives a record. -/
theorem FieldRow.Fits.exists_overlays {σ : Type} {s : Section σ} {rows : List (FieldRow σ)}
    {entries : Toml.Entries} (hfits : FieldRow.Fits rows entries)
    (h : s.ViewedAs (rows.map FieldRow.view)) (hnodup : (entries.map Prod.fst).Nodup) :
    ∃ r, FieldRow.Overlays rows s.start entries r := by
  have hsome : (s.ofEntries entries).isSome :=
    h.isSome_ofEntries_iff.2 fun e he ↦ FieldRow.knows_map_view_iff.2 (hfits e he)
  obtain ⟨r, hread⟩ := Option.isSome_iff_exists.1 hsome
  exact ⟨r, ((Section.ofEntries_iff h hnodup).1 hread).2⟩

/-! ### The sections -/

/-- The fields of the worker settings. -/
def WorkerSettings.rows : List (FieldRow WorkerSettings) :=
  [⟨"threads", .number UInt64.size, fun s ↦ .integer s.threads⟩,
    ⟨"name_prefix", .text, fun s ↦ .string s.namePrefix⟩,
    ⟨"queue_capacity", .number UInt64.size, fun s ↦ .integer s.queueCapacity⟩,
    ⟨"transaction_timeout_ms", .number UInt64.size, fun s ↦ .integer s.transactionTimeoutMs⟩,
    ⟨"arena_min_class_bytes", .number UInt64.size, fun s ↦ .integer s.arenaMinClassBytes⟩,
    ⟨"arena_max_class_bytes", .number UInt64.size, fun s ↦ .integer s.arenaMaxClassBytes⟩,
    ⟨"arena_max_buffers_per_class", .number UInt64.size, fun s ↦ .integer s.arenaMaxBuffersPerClass⟩,
    ⟨"object_cache_max_per_type", .number UInt64.size, fun s ↦ .integer s.objectCacheMaxPerType⟩]

/-- The fields of the chain settings. -/
def ChainSettings.rows : List (FieldRow ChainSettings) :=
  [⟨"max_consecutive_reruns", .number UInt32.size, fun s ↦ .integer s.maxConsecutiveReruns⟩]

/-- The fields of the attribute settings. -/
def AttributeSettings.rows : List (FieldRow AttributeSettings) :=
  [⟨"slot_limit", .number UInt64.size, fun s ↦ .integer s.slotLimit⟩]

theorem WorkerSettings.section_viewedAs :
    WorkerSettings.section.ViewedAs (WorkerSettings.rows.map FieldRow.view) where
  keys := rfl
  nodup := by decide
  reads := by
    simp only [rows, List.map_cons, List.map_nil, List.forall_mem_cons]
    refine ⟨⟨_, rfl, FieldRow.readBy_number (fun _ _ ↦ rfl) ?_⟩,
      ⟨_, rfl, FieldRow.readBy_text (fun _ _ ↦ rfl) ?_⟩,
      ⟨_, rfl, FieldRow.readBy_number (fun _ _ ↦ rfl) ?_⟩,
      ⟨_, rfl, FieldRow.readBy_number (fun _ _ ↦ rfl) ?_⟩,
      ⟨_, rfl, FieldRow.readBy_number (fun _ _ ↦ rfl) ?_⟩,
      ⟨_, rfl, FieldRow.readBy_number (fun _ _ ↦ rfl) ?_⟩,
      ⟨_, rfl, FieldRow.readBy_number (fun _ _ ↦ rfl) ?_⟩,
      ⟨_, rfl, FieldRow.readBy_number (fun _ _ ↦ rfl) ?_⟩, nofun⟩
    all_goals simp [FieldRow.view]
  ext a b h := by
    simp only [rows, List.map_cons, List.map_nil, List.forall_mem_cons, FieldRow.view,
      Toml.Value.integer.injEq, Toml.Value.string.injEq, Int.natCast_inj] at h
    obtain ⟨h₁, h₂, h₃, h₄, h₅, h₆, h₇, h₈, -⟩ := h
    cases a
    cases b
    rw [mk.injEq]
    exact ⟨h₁, h₂, h₃, h₄, h₅, h₆, h₇, h₈⟩

theorem ChainSettings.section_viewedAs :
    ChainSettings.section.ViewedAs (ChainSettings.rows.map FieldRow.view) where
  keys := rfl
  nodup := by decide
  reads := by
    simp only [rows, List.map_cons, List.map_nil, List.forall_mem_cons]
    refine ⟨⟨_, rfl, FieldRow.readBy_number (fun _ _ ↦ rfl) ?_⟩, nofun⟩
    simp [FieldRow.view]
  ext a b h := by
    simp only [rows, List.map_cons, List.map_nil, List.forall_mem_cons, FieldRow.view,
      Toml.Value.integer.injEq, Int.natCast_inj] at h
    cases a
    cases b
    rw [mk.injEq]
    exact h.1

theorem AttributeSettings.section_viewedAs :
    AttributeSettings.section.ViewedAs (AttributeSettings.rows.map FieldRow.view) where
  keys := rfl
  nodup := by decide
  reads := by
    simp only [rows, List.map_cons, List.map_nil, List.forall_mem_cons]
    refine ⟨⟨_, rfl, FieldRow.readBy_number (fun _ _ ↦ rfl) ?_⟩, nofun⟩
    simp [FieldRow.view]
  ext a b h := by
    simp only [rows, List.map_cons, List.map_nil, List.forall_mem_cons, FieldRow.view,
      Toml.Value.integer.injEq, Int.natCast_inj] at h
    cases a
    cases b
    rw [mk.injEq]
    exact h.1

/-! ### Documents -/

namespace Toml.Entries

/-- The entries of the table under a name. There are none when there is no such table. -/
def below (entries : Entries) (name : String) : Entries :=
  match entries.lookup name with
  | some (.table _ inner) => inner
  | _ => []

theorem Keyed.below {entries : Entries} (h : entries.Keyed) (name : String) :
    (entries.below name).Keyed := by
  unfold Entries.below
  split
  · next hlookup => exact Value.keyed_table_iff.1 (h.of_lookup hlookup)
  · exact .nil

end Toml.Entries

namespace Settings

/-- The sections, as fields of the settings. -/
def views : List (FieldView Settings) :=
  [⟨"worker", WorkerSettings.section.ofValue, Settings.worker⟩,
    ⟨"chain", ChainSettings.section.ofValue, Settings.chain⟩,
    ⟨"attributes", AttributeSettings.section.ofValue, Settings.attributes⟩]

/-- A reader of a section is that of a field that holds the section's record. -/
theorem readBy_record {τ : Type} {s : Section τ} {views : List (FieldView Settings)} {key : String}
    {put : τ → Settings → Settings} {get : Settings → τ} (hget : ∀ r acc, get (put r acc) = r)
    (hothers : ∀ r acc, ∀ other ∈ views, other.key ≠ key → other.held (put r acc) = other.held acc) :
    (FieldView.mk key s.ofValue get).ReadBy views (.record s put) := by
  constructor
  · intro value acc hgiven
    exact congrArg (Option.map fun r ↦ put r acc) hgiven
  · intro value acc r hgiven
    exact ⟨put r acc, congrArg (Option.map fun r ↦ put r acc) hgiven, hget r acc, hothers r acc⟩

/-- The readers of the settings are those of the three sections. -/
theorem section_viewedAs : Settings.section.ViewedAs views where
  keys := rfl
  nodup := by decide
  reads := by
    simp only [views, List.forall_mem_cons]
    refine ⟨⟨_, rfl, readBy_record (fun _ _ ↦ rfl) ?_⟩, ⟨_, rfl, readBy_record (fun _ _ ↦ rfl) ?_⟩,
      ⟨_, rfl, readBy_record (fun _ _ ↦ rfl) ?_⟩, nofun⟩
    all_goals simp
  ext a b h := by
    simp only [views, List.forall_mem_cons] at h
    cases a
    cases b
    rw [mk.injEq]
    exact ⟨h.1, h.2.1, h.2.2.1⟩

/-- Whatever stands under the name of a section is a table. -/
def HasTables (entries : Toml.Entries) : Prop :=
  ∀ e ∈ entries, e.1 ∈ ["worker", "chain", "attributes"] → ∃ kind inner, e.2 = .table kind inner

/-- Every key at both levels is that of a field, and every value is one that its field may hold. -/
@[mk_iff]
structure Fits (entries : Toml.Entries) : Prop where
  names : ∀ e ∈ entries, e.1 ∈ ["worker", "chain", "attributes"]
  worker : FieldRow.Fits WorkerSettings.rows (entries.below "worker")
  chain : FieldRow.Fits ChainSettings.rows (entries.below "chain")
  attributes : FieldRow.Fits AttributeSettings.rows (entries.below "attributes")

/-- The settings are the given values over the defaults. -/
@[mk_iff]
structure Overlays (entries : Toml.Entries) (settings : Settings) : Prop where
  worker : FieldRow.Overlays WorkerSettings.rows {} (entries.below "worker") settings.worker
  chain : FieldRow.Overlays ChainSettings.rows {} (entries.below "chain") settings.chain
  attributes : FieldRow.Overlays AttributeSettings.rows {} (entries.below "attributes") settings.attributes

/-- An entry gives one of the sections a record when its name is that of a section, and its value can be
read as that one. -/
theorem knows_views_iff {e : String × Toml.Value} :
    FieldView.Knows views e ↔ e.1 ∈ ["worker", "chain", "attributes"] ∧
      (e.1 = "worker" → (WorkerSettings.section.ofValue e.2).isSome) ∧
      (e.1 = "chain" → (ChainSettings.section.ofValue e.2).isSome) ∧
      (e.1 = "attributes" → (AttributeSettings.section.ofValue e.2).isSome) := by
  constructor
  · rintro ⟨view, hview, hkey, hsome⟩
    simp only [views, List.mem_cons, List.not_mem_nil, or_false] at hview
    rcases hview with rfl | rfl | rfl <;> simp [← hkey, hsome]
  · rintro ⟨hname, hworker, hchain, hattributes⟩
    simp only [List.mem_cons, List.not_mem_nil, or_false] at hname
    rcases hname with hname | hname | hname
    · exact ⟨_, List.mem_cons_self, hname.symm, hworker hname⟩
    · exact ⟨_, List.mem_cons_of_mem _ List.mem_cons_self, hname.symm, hchain hname⟩
    · exact ⟨_, List.mem_cons_of_mem _ (List.mem_cons_of_mem _ List.mem_cons_self), hname.symm,
        hattributes hname⟩

/-- What is read from the table under a name. -/
theorem ofEntries_below_iff {τ : Type} {s : Section τ} {entries : Toml.Entries} {key : String} {r : τ}
    (hnodup : (entries.map Prod.fst).Nodup)
    (htable : ∀ e ∈ entries, e.1 = key → ∃ kind inner, e.2 = .table kind inner) :
    s.ofEntries (entries.below key) = some r ↔
      (∀ e ∈ entries, e.1 = key → (s.ofValue e.2).isSome) ∧
        r = ((entries.lookup key).bind s.ofValue).getD s.start := by
  cases hlookup : entries.lookup key with
  | none =>
    have hnot : ∀ e ∈ entries, e.1 ≠ key := fun e he heq ↦
      List.lookup_eq_none_iff_not_mem.1 hlookup (heq ▸ List.mem_map_of_mem he)
    rw [Toml.Entries.below, hlookup, Section.ofEntries_eq_foldlM, List.foldlM_nil, Option.bind_none,
      Option.getD_none, and_iff_right fun e he heq ↦ (hnot e he heq).elim]
    exact Option.some_inj.trans eq_comm
  | some value =>
    have hmem := List.mem_of_lookup hlookup
    obtain ⟨kind, inner, heq⟩ := htable _ hmem rfl
    cases heq
    have honly : ∀ e ∈ entries, e.1 = key → e.2 = .table kind inner := by
      rintro ⟨_, other⟩ he rfl
      exact Option.some.inj ((List.lookup_of_mem hnodup he).symm.trans hlookup)
    have hgiven : s.ofValue (.table kind inner) = s.ofEntries inner := rfl
    rw [Toml.Entries.below, hlookup, Option.bind_some, hgiven]
    constructor
    · intro hread
      refine ⟨fun e he hkey ↦ ?_, by rw [hread, Option.getD_some]⟩
      rw [honly e he hkey, hgiven, hread, Option.isSome_some]
    · rintro ⟨hsome, rfl⟩
      obtain ⟨r, hread⟩ := Option.isSome_iff_exists.1 (hsome _ hmem rfl)
      have hread : s.ofEntries inner = some r := hread
      rw [hread, Option.getD_some]

/-- Reading gives settings when every entry fits, and then those over the defaults. -/
theorem ofEntries_iff {entries : Toml.Entries} {settings : Settings} (h : entries.Keyed)
    (htables : HasTables entries) :
    Settings.section.ofEntries entries = some settings ↔ Fits entries ∧ Overlays entries settings := by
  have htable : ∀ name ∈ ["worker", "chain", "attributes"], ∀ e ∈ entries, e.1 = name →
      ∃ kind inner, e.2 = Toml.Value.table kind inner :=
    fun name hname e he heq ↦ htables e he (heq ▸ hname)
  have hworker := ofEntries_below_iff (s := WorkerSettings.section) (r := settings.worker) h.nodup
    (htable "worker" (by decide))
  have hchain := ofEntries_below_iff (s := ChainSettings.section) (r := settings.chain) h.nodup
    (htable "chain" (by decide))
  have hattributes := ofEntries_below_iff (s := AttributeSettings.section) (r := settings.attributes)
    h.nodup (htable "attributes" (by decide))
  rw [Section.ofEntries_iff WorkerSettings.section_viewedAs (h.below _).nodup] at hworker
  rw [Section.ofEntries_iff ChainSettings.section_viewedAs (h.below _).nodup] at hchain
  rw [Section.ofEntries_iff AttributeSettings.section_viewedAs (h.below _).nodup] at hattributes
  rw [section_viewedAs.ofEntries_eq_some_iff h.nodup]
  simp only [knows_views_iff]
  simp only [views, List.forall_mem_cons]
  constructor
  · rintro ⟨hknows, hoverlay⟩
    obtain ⟨fits₁, overlays₁⟩ := hworker.2 ⟨fun e he ↦ (hknows e he).2.1, hoverlay.1⟩
    obtain ⟨fits₂, overlays₂⟩ := hchain.2 ⟨fun e he ↦ (hknows e he).2.2.1, hoverlay.2.1⟩
    obtain ⟨fits₃, overlays₃⟩ := hattributes.2 ⟨fun e he ↦ (hknows e he).2.2.2, hoverlay.2.2.1⟩
    exact ⟨⟨fun e he ↦ (hknows e he).1, fits₁, fits₂, fits₃⟩, overlays₁, overlays₂, overlays₃⟩
  · rintro ⟨⟨names, fits₁, fits₂, fits₃⟩, overlays₁, overlays₂, overlays₃⟩
    obtain ⟨known₁, overlay₁⟩ := hworker.1 ⟨fits₁, overlays₁⟩
    obtain ⟨known₂, overlay₂⟩ := hchain.1 ⟨fits₂, overlays₂⟩
    obtain ⟨known₃, overlay₃⟩ := hattributes.1 ⟨fits₃, overlays₃⟩
    exact ⟨fun e he ↦ ⟨names e he, known₁ e he, known₂ e he, known₃ e he⟩,
      overlay₁, overlay₂, overlay₃, nofun⟩

/-- Entries that fit stand for some settings. -/
theorem Fits.exists_overlays {entries : Toml.Entries} (hfits : Fits entries) (h : entries.Keyed) :
    ∃ settings, Overlays entries settings := by
  obtain ⟨worker, hworker⟩ :=
    hfits.worker.exists_overlays WorkerSettings.section_viewedAs (h.below _).nodup
  obtain ⟨chain, hchain⟩ :=
    hfits.chain.exists_overlays ChainSettings.section_viewedAs (h.below _).nodup
  obtain ⟨attributes, hattributes⟩ :=
    hfits.attributes.exists_overlays AttributeSettings.section_viewedAs (h.below _).nodup
  exact ⟨⟨worker, chain, attributes⟩, hworker, hchain, hattributes⟩

end Settings

end Conduit
