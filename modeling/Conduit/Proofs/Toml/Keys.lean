import Conduit.Proofs.Lookup
import Conduit.Toml.Value

/-!
# Keys of a TOML document

In TOML no key may be given twice. What is read from a document depends on that, and on nothing else about
the parser that reads it: no table of the document holds a key twice (`ParsesKeyed`).
-/

namespace Conduit.Toml

/-- No table in the value holds a key twice. -/
inductive Value.Keyed : Value → Prop where
  | string (text : String) : Keyed (.string text)
  | integer (n : Int) : Keyed (.integer n)
  | float (text : String) : Keyed (.float text)
  | boolean (b : Bool) : Keyed (.boolean b)
  | datetime (text : String) : Keyed (.datetime text)
  | array {ofTables : Bool} {items : List Value} (items_keyed : ∀ item ∈ items, Keyed item) :
    Keyed (.array ofTables items)
  | table {kind : TableKind} {entries : Entries} (nodup : (entries.map Prod.fst).Nodup)
      (values : ∀ e ∈ entries, Keyed e.2) : Keyed (.table kind entries)

/-- No key stands twice, neither in the entries nor in a table that is a value of theirs. -/
structure Entries.Keyed (entries : Entries) : Prop where
  /-- The keys are distinct. -/
  nodup : (entries.map Prod.fst).Nodup
  /-- So are those of the tables inside. -/
  values : ∀ e ∈ entries, e.2.Keyed

/-- Of a table, it is the entries that count. -/
theorem Value.keyed_table_iff {kind : TableKind} {entries : Entries} :
    (Value.table kind entries).Keyed ↔ entries.Keyed := by
  constructor
  · rintro (_ | _ | _ | _ | _ | _ | ⟨nodup, values⟩)
    exact ⟨nodup, values⟩
  · exact fun h ↦ .table h.nodup h.values

theorem Value.keyed_array_iff {ofTables : Bool} {items : List Value} :
    (Value.array ofTables items).Keyed ↔ ∀ item ∈ items, item.Keyed := by
  constructor
  · rintro (_ | _ | _ | _ | _ | hitems | _)
    exact hitems
  · exact .array

namespace Entries

variable {entries : Entries} {key : String} {value : Value}

/-- Replacing a value keeps the keys and their order. -/
theorem map_fst_replace : (entries.replace key value).map Prod.fst = entries.map Prod.fst := by
  rw [replace, List.map_map]
  refine List.map_congr_left fun e _ ↦ ?_
  by_cases h : e.1 = key <;> simp [h]

/-- What was put in place of a value is found under its key. -/
theorem lookup_replace {old : Value} (h : entries.lookup key = some old) :
    (entries.replace key value).lookup key = some value := by
  induction entries with
  | nil => simp at h
  | cons e entries ih =>
    obtain ⟨first, held⟩ := e
    by_cases hkey : first = key
    · simp [replace, hkey]
    · have hne : (key == first) = false := beq_eq_false_iff_ne.2 (Ne.symm hkey)
      simp only [List.lookup_cons, hne] at h
      simpa [replace, hkey, List.lookup_cons, hne] using ih h

theorem lookup_without : (entries.without key).lookup key = none :=
  List.lookup_filter_ne_self entries key

theorem Keyed.nil : Entries.Keyed [] :=
  ⟨List.nodup_nil, by simp⟩

theorem Keyed.of_lookup (h : entries.Keyed) (hlookup : entries.lookup key = some value) :
    value.Keyed :=
  h.values _ (List.mem_of_lookup hlookup)

/-- An entry is added where its key does not stand yet. -/
theorem Keyed.concat (h : entries.Keyed) (hnone : entries.lookup key = none)
    (hvalue : value.Keyed) : Entries.Keyed (entries ++ [(key, value)]) where
  nodup := by
    rw [List.map_append, List.map_singleton, ← List.concat_eq_append]
    exact h.nodup.concat (List.lookup_eq_none_iff_not_mem.1 hnone)
  values e he := by
    rcases List.mem_append.1 he with he | he
    · exact h.values e he
    · rwa [List.mem_singleton.1 he]

theorem Keyed.replace (h : entries.Keyed) (hvalue : value.Keyed) :
    (entries.replace key value).Keyed where
  nodup := by
    rw [map_fst_replace]
    exact h.nodup
  values e he := by
    obtain ⟨old, hold, rfl⟩ := List.mem_map.1 he
    split
    · exact hvalue
    · exact h.values old hold

theorem Keyed.without (h : entries.Keyed) : (entries.without key).Keyed where
  nodup := h.nodup.sublist (List.filter_sublist.map Prod.fst)
  values e he := h.values e (List.mem_of_mem_filter he)

end Entries

/-- A parser of documents in whose tables no key stands twice. -/
def ParsesKeyed (parse? : String → Option Entries) : Prop :=
  ∀ text entries, parse? text = some entries → entries.Keyed

end Conduit.Toml
