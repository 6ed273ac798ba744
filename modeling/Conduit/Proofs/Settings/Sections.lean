import Conduit.Proofs.Toml.Keys
import Conduit.Settings.Decode

/-!
# Reading records from tables

Reading a record changes it entry after entry. What comes of it does not depend on how it came about:
it succeeds when every key is that of a field and every value is one that the field can have, and then
each field has the value given for it, or its value without any input when none is given
(`Section.ofEntries_eq_some_iff`).
-/

namespace Conduit

/-- A field of a record: what values give it, and what a record has in it. -/
structure FieldView (σ : Type) where
  /-- The key of the field. -/
  key : String
  /-- What the field holds. -/
  {Held : Type}
  /-- What a value gives the field, if it is one that the field can have. -/
  given? : Toml.Value → Option Held
  /-- What a record has in the field. -/
  held : σ → Held

namespace FieldView

variable {σ : Type}

/-- A reader of the field gives it what the value gives, and nothing to the record's other fields. -/
structure ReadBy (views : List (FieldView σ)) (view : FieldView σ) (reader : FieldReader σ) : Prop where
  /-- A value that the field cannot have is refused. -/
  refused : ∀ value acc, view.given? value = none → reader value acc = none
  /-- Any other is put in the field. -/
  put : ∀ value acc given, view.given? value = some given → ∃ acc', reader value acc = some acc' ∧
    view.held acc' = given ∧ ∀ other ∈ views, other.key ≠ view.key → other.held acc' = other.held acc

/-- What a table gives the field of a record that had another value before. -/
def overlay (view : FieldView σ) (entries : Toml.Entries) (acc : σ) : view.Held :=
  ((entries.lookup view.key).bind view.given?).getD (view.held acc)

theorem overlay_nil (view : FieldView σ) (acc : σ) : view.overlay [] acc = view.held acc :=
  rfl

/-- An entry for another key does not matter to a field. -/
theorem overlay_cons_of_ne {view : FieldView σ} {e : String × Toml.Value} (h : view.key ≠ e.1)
    (entries : Toml.Entries) (acc : σ) :
    view.overlay (e :: entries) acc = view.overlay entries acc := by
  obtain ⟨key, value⟩ := e
  have hne : (view.key == key) = false := beq_eq_false_iff_ne.2 h
  simp only [overlay, List.lookup_cons, hne]

/-- An entry gives one of the fields a value that it can have. -/
def Knows (views : List (FieldView σ)) (e : String × Toml.Value) : Prop :=
  ∃ view ∈ views, view.key = e.1 ∧ (view.given? e.2).isSome

end FieldView

namespace Section

open FieldView

/-- The fields of a section, as views of its record. -/
structure ViewedAs {σ : Type} (s : Section σ) (views : List (FieldView σ)) : Prop where
  /-- The fields have the same keys. -/
  keys : s.fields.map Prod.fst = views.map FieldView.key
  /-- Every field is read under its key. -/
  reads : ∀ view ∈ views, ∃ reader, s.fields.lookup view.key = some reader ∧ view.ReadBy views reader
  /-- The keys are distinct. -/
  nodup : (views.map FieldView.key).Nodup
  /-- A record is known by its fields. -/
  ext : ∀ a b : σ, (∀ view ∈ views, view.held a = view.held b) → a = b

section

variable {σ : Type} {s : Section σ} {views : List (FieldView σ)} {acc acc' r : σ}
  {e : String × Toml.Value} {entries : Toml.Entries}

/-- The change that one entry makes. -/
def readOne? (s : Section σ) (acc : σ) (e : String × Toml.Value) : Option σ := do
  (← s.fields.lookup e.1) e.2 acc

theorem ofEntries_eq_foldlM (s : Section σ) (entries : Toml.Entries) :
    s.ofEntries entries = entries.foldlM s.readOne? s.start :=
  rfl

/-- An entry that no field knows is refused. -/
theorem ViewedAs.readOne?_of_not_knows (h : s.ViewedAs views) (hknows : ¬ Knows views e) :
    s.readOne? acc e = none := by
  by_cases hkey : ∃ view ∈ views, view.key = e.1
  · obtain ⟨view, hview, hkey⟩ := hkey
    obtain ⟨reader, hreader, hread⟩ := h.reads view hview
    have hgiven : view.given? e.2 = none := by
      by_contra hsome
      exact hknows ⟨view, hview, hkey, Option.isSome_iff_ne_none.2 hsome⟩
    simpa [readOne?, ← hkey, hreader] using hread.refused e.2 acc hgiven
  · have hlookup : s.fields.lookup e.1 = none := by
      refine List.lookup_eq_none_iff.2 fun field hfield ↦ bne_iff_ne.2 fun heq ↦ hkey ?_
      have hmem : field.1 ∈ views.map FieldView.key := h.keys ▸ List.mem_map_of_mem hfield
      obtain ⟨view, hview, hsame⟩ := List.mem_map.1 hmem
      exact ⟨view, hview, hsame.trans heq.symm⟩
    simp [readOne?, hlookup]

/-- Any other entry gives its field a value, and the other fields nothing. -/
theorem ViewedAs.readOne?_of_knows (h : s.ViewedAs views) (acc : σ) (hknows : Knows views e) :
    ∃ acc', s.readOne? acc e = some acc' ∧
      ∀ view ∈ views, view.held acc' = view.overlay [e] acc := by
  obtain ⟨key, value⟩ := e
  obtain ⟨view, hview, rfl, hsome⟩ := hknows
  obtain ⟨reader, hreader, hread⟩ := h.reads view hview
  obtain ⟨given, hgiven⟩ := Option.isSome_iff_exists.1 hsome
  obtain ⟨acc', hacc', hheld, hothers⟩ := hread.put value acc given hgiven
  refine ⟨acc', by simpa [readOne?, hreader] using hacc', fun other hother ↦ ?_⟩
  by_cases hsame : other.key = view.key
  · obtain rfl := List.inj_on_of_nodup_map h.nodup hother hview hsame
    simp [overlay, hgiven, hheld]
  · rw [overlay_cons_of_ne hsame, overlay_nil, hothers other hother hsame]

/-- Reading succeeds when every entry gives one of the fields a value that it can have. -/
theorem ViewedAs.isSome_foldlM_iff (h : s.ViewedAs views) :
    (entries.foldlM s.readOne? acc).isSome ↔ ∀ e ∈ entries, Knows views e := by
  induction entries generalizing acc with
  | nil => simp
  | cons e entries ih =>
    rw [List.foldlM_cons, List.forall_mem_cons]
    by_cases hknows : Knows views e
    · obtain ⟨acc', hacc', -⟩ := h.readOne?_of_knows acc hknows
      simp only [hacc', Option.bind_eq_bind, Option.bind_some, hknows, true_and]
      exact ih
    · simp [h.readOne?_of_not_knows hknows, hknows]

/-- The entry of a key comes first, and no later one has its key. -/
theorem overlay_cons {view : FieldView σ} (hnodup : ((e :: entries).map Prod.fst).Nodup)
    (hacc' : view.held acc' = view.overlay [e] acc) :
    view.overlay entries acc' = view.overlay (e :: entries) acc := by
  by_cases hkey : view.key = e.1
  · have hnone : entries.lookup view.key = none :=
      hkey ▸ List.lookup_eq_none_iff_not_mem.2 (List.nodup_cons.1 hnodup).1
    rw [overlay, hnone, Option.bind_none, Option.getD_none, hacc', overlay, overlay]
    obtain ⟨key, value⟩ := e
    cases hkey
    rw [List.lookup_cons_self, List.lookup_cons_self]
  · rw [overlay_cons_of_ne hkey, overlay_nil] at hacc'
    rw [overlay_cons_of_ne hkey, overlay, overlay, hacc']

/-- What reading leaves in each field, by induction on the entries of the table. -/
theorem ViewedAs.held_of_foldlM (h : s.ViewedAs views) (hnodup : (entries.map Prod.fst).Nodup)
    (hread : entries.foldlM s.readOne? acc = some r) :
    ∀ view ∈ views, view.held r = view.overlay entries acc := by
  induction entries generalizing acc with
  | nil =>
    cases hread
    exact fun view _ ↦ rfl
  | cons e entries ih =>
    rw [List.foldlM_cons] at hread
    obtain ⟨acc', hacc', hread⟩ := Option.bind_eq_some_iff.1 hread
    have hknows : Knows views e := by
      by_contra hknows
      rw [h.readOne?_of_not_knows hknows] at hacc'
      cases hacc'
    obtain ⟨acc'', hacc'', hheld⟩ := h.readOne?_of_knows acc hknows
    cases hacc'.symm.trans hacc''
    intro view hview
    exact (ih (List.nodup_cons.1 hnodup).2 hread view hview).trans
      (overlay_cons hnodup (hheld view hview))

/-- **Reading a record from a table** succeeds when every entry gives one of the fields a value that it
can have, and each field then has the value given for it. -/
theorem ViewedAs.ofEntries_eq_some_iff (h : s.ViewedAs views) (hnodup : (entries.map Prod.fst).Nodup) :
    s.ofEntries entries = some r ↔ (∀ e ∈ entries, Knows views e) ∧
      ∀ view ∈ views, view.held r = view.overlay entries s.start := by
  rw [ofEntries_eq_foldlM]
  constructor
  · intro hread
    exact ⟨h.isSome_foldlM_iff.1 (Option.isSome_of_eq_some hread), h.held_of_foldlM hnodup hread⟩
  · rintro ⟨hknows, hheld⟩
    have hsome : (entries.foldlM s.readOne? s.start).isSome := h.isSome_foldlM_iff.2 hknows
    obtain ⟨r', hread⟩ := Option.isSome_iff_exists.1 hsome
    rw [hread, h.ext r r' fun view hview ↦
      (hheld view hview).trans (h.held_of_foldlM hnodup hread view hview).symm]

/-- Whether a record can be read at all depends on each entry alone. -/
theorem ViewedAs.isSome_ofEntries_iff (h : s.ViewedAs views) :
    (s.ofEntries entries).isSome ↔ ∀ e ∈ entries, Knows views e :=
  h.isSome_foldlM_iff

end

end Section

end Conduit
