import Mathlib.Data.List.Perm.Basic
import Mathlib.Data.List.Nodup

/-!
# Lists of keys and values

What `List.lookup` finds in a list of pairs of a key and a value. A list in which no key stands twice is
known by what it has under its keys, whatever the order.
-/

namespace List

variable {K V : Type} [BEq K] [LawfulBEq K] {entries other : List (K × V)} {key : K} {value : V}

/-- What is found under a key is one of the entries. -/
theorem mem_of_lookup (h : entries.lookup key = some value) : (key, value) ∈ entries := by
  obtain ⟨before, after, rfl, -⟩ := List.lookup_eq_some_iff.1 h
  simp

/-- A value is found under its key when no other value stands under it. -/
theorem lookup_of_mem (hnodup : (entries.map Prod.fst).Nodup) (h : (key, value) ∈ entries) :
    entries.lookup key = some value := by
  obtain ⟨before, after, rfl⟩ := List.append_of_mem h
  rw [List.map_append, List.map_cons, List.nodup_append] at hnodup
  refine List.lookup_eq_some_iff.2 ⟨before, after, rfl, fun e he ↦ bne_iff_ne.2 fun heq ↦ ?_⟩
  exact hnodup.2.2 e.1 (List.mem_map_of_mem he) key List.mem_cons_self heq.symm

/-- The order of the pairs does not matter when no key stands twice. -/
theorem lookup_eq_of_perm (hnodup : (entries.map Prod.fst).Nodup) (h : entries.Perm other) (key : K) :
    entries.lookup key = other.lookup key := by
  have hnodup' : (other.map Prod.fst).Nodup := (h.map Prod.fst).nodup_iff.1 hnodup
  refine Option.ext fun value ↦ ⟨fun hlookup ↦ ?_, fun hlookup ↦ ?_⟩
  · exact lookup_of_mem hnodup' (h.mem_iff.1 (mem_of_lookup hlookup))
  · exact lookup_of_mem hnodup (h.mem_iff.2 (mem_of_lookup hlookup))

/-- Nothing is found under just those keys that do not stand in the list. -/
theorem lookup_eq_none_iff_not_mem : entries.lookup key = none ↔ key ∉ entries.map Prod.fst := by
  simp only [List.lookup_eq_none_iff, List.mem_map, not_exists, not_and, bne_iff_ne]
  exact ⟨fun h e he heq ↦ h e he heq.symm, fun h e he heq ↦ h e he heq.symm⟩

/-- An entry that is added is found, if its key is not there yet. -/
theorem lookup_concat (h : entries.lookup key = none) :
    (entries ++ [(key, value)]).lookup key = some value := by
  rw [List.lookup_append, h, List.lookup_cons_self, Option.none_or]

/-- Nothing is found under a key whose pairs were taken out. -/
theorem lookup_filter_ne_self [DecidableEq K] (entries : List (K × V)) (key : K) :
    (entries.filter fun e ↦ e.1 ≠ key).lookup key = none := by
  refine lookup_eq_none_iff_not_mem.2 fun hmem ↦ ?_
  obtain ⟨e, he, heq⟩ := List.mem_map.1 hmem
  exact absurd heq (by simpa using List.of_mem_filter he)

end List
