import Conduit.Attribute.Store
import Conduit.Proofs.Lookup

/-!
# Sound attribute stores

A store lists the slots that hold a value, so that clearing it need not look at the others. Clearing
is therefore complete only for a store whose list is right (`Sound`). Every operation keeps it right,
and what may be done to a store from outside is exactly what keeps it right (`StoreEdit`).
-/

namespace Conduit

namespace AttributeStore

variable {W : Type} {kind : ValueKind} {store : AttributeStore}

/-- What is kept in a slot. -/
def slotValue? (slots : List (Option StoredValue)) (index : Nat) : Option StoredValue :=
  (slots[index]?).join

/-- The list of filled slots names exactly those, each once. -/
structure Sound (store : AttributeStore) : Prop where
  mem_occupied : ∀ index, index ∈ store.occupied ↔ (slotValue? store.slots index).isSome
  nodup : store.occupied.Nodup

/-- A store without any value, in its slots as well as under names. -/
structure Blank (store : AttributeStore) : Prop where
  slots : ∀ index, slotValue? store.slots index = none
  occupied : store.occupied = []
  named : store.named = []

/-! ### Slots -/

theorem slotValue?_replicate (n index : Nat) : slotValue? (List.replicate n none) index = none := by
  rw [slotValue?, List.getElem?_replicate]
  split <;> rfl

theorem slotValue?_append_replicate (slots : List (Option StoredValue)) (n index : Nat) :
    slotValue? (slots ++ List.replicate n none) index = slotValue? slots index := by
  rcases Nat.lt_or_ge index slots.length with hlt | hge
  · rw [slotValue?, List.getElem?_append_left hlt, slotValue?]
  · rw [slotValue?, List.getElem?_append_right hge, ← slotValue?, slotValue?_replicate, slotValue?,
      List.getElem?_eq_none hge]
    rfl

theorem slotValue?_set_self {slots : List (Option StoredValue)} {index : Nat}
    (h : index < slots.length) (value : Option StoredValue) :
    slotValue? (slots.set index value) index = value := by
  rw [slotValue?, List.getElem?_set_self h, Option.join_some]

theorem slotValue?_set_ne (slots : List (Option StoredValue)) {index other : Nat}
    (h : index ≠ other) (value : Option StoredValue) :
    slotValue? (slots.set index value) other = slotValue? slots other := by
  rw [slotValue?, List.getElem?_set_ne h, slotValue?]

/-- A slot that is emptied holds nothing, even if there is no such slot. -/
theorem slotValue?_set_none (slots : List (Option StoredValue)) (index : Nat) :
    slotValue? (slots.set index none) index = none := by
  rw [slotValue?, List.getElem?_set]
  simp only [if_true]
  split <;> rfl

/-- Emptying slots one after another empties those, and leaves the others as they are. -/
theorem slotValue?_foldl_set_none (indices : List Nat) (slots : List (Option StoredValue))
    (index : Nat) :
    slotValue? (indices.foldl (fun slots index ↦ slots.set index none) slots) index =
      if index ∈ indices then none else slotValue? slots index := by
  induction indices generalizing slots with
  | nil => simp
  | cons first rest ih =>
    rw [List.foldl_cons, ih]
    by_cases hrest : index ∈ rest
    · rw [if_pos hrest, if_pos (List.mem_cons_of_mem _ hrest)]
    · rw [if_neg hrest]
      by_cases hfirst : index = first
      · subst hfirst
        rw [if_pos List.mem_cons_self, slotValue?_set_none]
      · rw [if_neg (by simp [hfirst, hrest]), slotValue?_set_ne _ (Ne.symm hfirst)]

/-! ### The list of filled slots -/

/-- Vacating a slot takes it out of the list, and may reorder the others. -/
theorem vacate_perm (occupied : List Nat) (index : Nat) :
    (vacate occupied index).Perm (occupied.erase index) := by
  rw [List.erase_eq_eraseIdx, vacate]
  cases hposition : occupied.idxOf? index with
  | none => exact .refl _
  | some position =>
    obtain ⟨hlt, -, -⟩ := List.idxOf?_eq_some_iff.1 hposition
    rcases List.eq_nil_or_concat' occupied with rfl | ⟨front, last, rfl⟩
    · contradiction
    · rw [List.getLast?_concat]
      show ((front ++ [last]).set position last).dropLast.Perm ((front ++ [last]).eraseIdx position)
      rcases Nat.lt_or_ge position front.length with hfront | hend
      · rw [List.set_append_left position last hfront, List.dropLast_concat,
          List.eraseIdx_append_of_lt_length hfront]
        exact (List.set_perm_cons_eraseIdx hfront last).trans (List.perm_append_singleton last _).symm
      · -- The last one is the one to be taken out, so it takes its own place first.
        obtain rfl : position = front.length := by
          rw [List.length_append, List.length_singleton] at hlt
          omega
        simp [List.eraseIdx_append_of_length_le]

/-! ### Where nothing is stored -/

/-- Nothing is stored where it was erased. -/
theorem isSet_erase (store : AttributeStore) (a : Attribute kind) :
    (store.erase a).isSet a = false := by
  rw [isSet, Option.isSome_eq_false_iff, Option.isNone_iff_eq_none, stored?, erase]
  by_cases howns : store.owns a = true
  · rw [if_pos howns]
    exact (if_pos howns).trans (slotValue?_set_none store.slots a.index)
  · rw [if_neg howns]
    exact (if_neg howns).trans (List.lookup_filter_ne_self store.named a.name)

/-- No value is read where it was erased. -/
theorem value?_erase (store : AttributeStore) (a : Attribute kind) : (store.erase a).value? a = none := by
  have hset := store.isSet_erase a
  rw [isSet, Option.isSome_eq_false_iff, Option.isNone_iff_eq_none] at hset
  rw [value?, hset, Option.bind_none]

theorem Blank.value?_eq_none (h : store.Blank) (a : Attribute kind) : store.value? a = none := by
  rw [value?, stored?]
  split
  · rw [← slotValue?, h.slots a.index, Option.bind_none]
  · rw [h.named, List.lookup_nil, Option.bind_none]

/-! ### Every operation keeps a store sound -/

theorem Blank.sound (h : store.Blank) : store.Sound where
  mem_occupied index := by
    rw [h.occupied, h.slots index]
    simp
  nodup := by
    rw [h.occupied]
    exact List.nodup_nil

theorem blank_new (registry : Registry) : (new registry).Blank where
  slots index := slotValue?_replicate _ index
  occupied := rfl
  named := rfl

theorem blank_detached : detached.Blank where
  slots index := by simp [detached, slotValue?]
  occupied := rfl
  named := rfl

/-- Clearing a sound store leaves nothing in it. -/
theorem Sound.blank_clear (h : store.Sound) : store.clear.Blank where
  slots index := by
    rw [clear, slotValue?_foldl_set_none]
    split
    · rfl
    · next hfree =>
      rw [h.mem_occupied] at hfree
      exact Option.not_isSome_iff_eq_none.1 hfree
  occupied := rfl
  named := rfl

/-- **A value that is put is listed**, in its slot or by its name. -/
theorem Sound.put (h : store.Sound) (a : Attribute kind) (value : kind.Carrier) :
    (store.put a value).Sound := by
  unfold AttributeStore.put
  split
  · next howns =>
    have hset : store.isSet a = (slotValue? store.slots a.index).isSome := by
      rw [isSet, stored?, if_pos howns, slotValue?]
    constructor
    · intro index
      by_cases hindex : a.index = index
      · -- The slots were filled up, so there is one at the index of the attribute.
        subst hindex
        rw [slotValue?_set_self (by simp; omega)]
        split
        · next hisSet => simpa [h.mem_occupied, ← hset] using hisSet
        · simp
      · rw [slotValue?_set_ne _ hindex, slotValue?_append_replicate, ← h.mem_occupied]
        split
        · rfl
        · simp [Ne.symm hindex]
    · split
      · exact h.nodup
      · next hisSet =>
        rw [hset, ← h.mem_occupied] at hisSet
        exact List.nodup_append.2 ⟨h.nodup, by simp, by
          rintro index hmem _ hlast rfl
          exact hisSet (List.mem_singleton.1 hlast ▸ hmem)⟩
  · exact ⟨h.mem_occupied, h.nodup⟩

/-- **A value that is erased is not listed any more**. -/
theorem Sound.erase (h : store.Sound) (a : Attribute kind) : (store.erase a).Sound := by
  unfold AttributeStore.erase
  split
  · have hperm := vacate_perm store.occupied a.index
    refine ⟨fun index ↦ ?_, hperm.nodup_iff.2 (h.nodup.erase _)⟩
    rw [hperm.mem_iff, h.nodup.mem_erase_iff]
    by_cases hindex : a.index = index
    · subst hindex
      simp [slotValue?_set_none]
    · rw [slotValue?_set_ne _ hindex, ← h.mem_occupied]
      simp [Ne.symm hindex]
  · exact ⟨h.mem_occupied, h.nodup⟩

/-- What a factory makes is put into the store soundly. -/
theorem Sound.materialize (h : store.Sound) (factories : Factories W) (a : Attribute kind) (w : W) :
    (store.materialize factories a w).1.Sound := by
  cases hdefault : a.default with
  | factory make =>
    simp only [AttributeStore.materialize, hdefault]
    by_cases hset : store.isSet a = true
    · rw [if_pos hset]
      exact h
    · rw [if_neg hset]
      exact h.put a _
  | _ =>
    simp only [AttributeStore.materialize, hdefault]
    exact h

theorem Sound.get (h : store.Sound) (factories : Factories W) (a : Attribute kind) (w : W) :
    (store.get factories a w).1.2.Sound :=
  h.materialize factories a w

/-- A value that is changed is put back soundly. -/
theorem Sound.modify (h : store.Sound) (factories : Factories W) (a : Attribute kind)
    (change : kind.Carrier → kind.Carrier) (w : W) :
    (store.modify factories a change w).1.2.Sound := by
  rcases hmade : store.materialize factories a w with ⟨made, w'⟩
  have hsound := h.materialize factories a w
  rw [hmade] at hsound
  simp only [AttributeStore.modify, bind, StateT.bind, hmade]
  cases hvalue : made.value? a with
  | some value => exact hsound.put a _
  | none => exact hsound

end AttributeStore

end Conduit
