import RecordFile.Proofs.Session.Registry

/-! # Tables in handle order

A table that is kept in the order of its handles is told by what it holds under each of them.
-/

namespace RecordFile.HandleTable

variable {α : Type}

/-! ## Looking up -/

theorem find?_putEntry_of_ne {handle other : Handle} (apart : other ≠ handle) (value : α)
    (entries : List (Handle × α)) :
    (putEntry handle value entries).find? (·.1 == other) = entries.find? (·.1 == other) := by
  have passed : (handle == other) = false := beq_eq_false_iff_ne.mpr (Ne.symm apart)
  induction entries with
  | nil => simp [putEntry, passed]
  | cons entry rest ih =>
    unfold putEntry
    split
    · next same => simp [← same, passed]
    · split
      · simp [List.find?_cons, passed]
      · rw [List.find?_cons, List.find?_cons, ih]

theorem get?_put_of_ne {handle other : Handle} (apart : other ≠ handle) (table : HandleTable α)
    (value : α) : (table.put handle value).get? other = table.get? other := by
  rw [get?, put, find?_putEntry_of_ne apart]
  rfl

@[simp] theorem get?_erase_self (table : HandleTable α) (handle : Handle) :
    (table.erase handle).get? handle = none := by
  simp [get?, erase]

theorem get?_erase_of_ne {handle other : Handle} (apart : other ≠ handle)
    (table : HandleTable α) : (table.erase handle).get? other = table.get? other := by
  unfold get? erase
  rw [List.find?_filter]
  congr 2
  funext entry
  by_cases found : entry.1 = other
  · simp [found, apart]
  · simp [found]

theorem get?_isSome_iff {table : HandleTable α} {handle : Handle} :
    (∃ value, table.get? handle = some value) ↔ handle ∈ table.handles := by
  rw [← Option.isSome_iff_exists, get?, Option.isSome_map, List.find?_isSome]
  simp [handles]

/-! ## Order -/

/-- The entries stand in the order of their handles, and no handle twice. -/
def IsOrdered (table : HandleTable α) : Prop :=
  table.entries.Pairwise (·.1.value < ·.1.value)

theorem isOrdered_empty : (empty : HandleTable α).IsOrdered := List.Pairwise.nil

theorem IsOrdered.erase {table : HandleTable α} (h : table.IsOrdered) (handle : Handle) :
    (table.erase handle).IsOrdered :=
  List.Pairwise.filter _ h

theorem forall_mem_putEntry (p : Handle → Prop) {handle : Handle} {value : α}
    {entries : List (Handle × α)} (new : p handle) (old : ∀ entry ∈ entries, p entry.1) :
    ∀ entry ∈ putEntry handle value entries, p entry.1 := by
  induction entries with
  | nil => simpa [putEntry] using new
  | cons first rest ih =>
    rw [List.forall_mem_cons] at old
    unfold putEntry
    split
    · exact List.forall_mem_cons.mpr ⟨new, old.2⟩
    · split
      · exact List.forall_mem_cons.mpr ⟨new, List.forall_mem_cons.mpr old⟩
      · exact List.forall_mem_cons.mpr ⟨old.1, ih old.2⟩

theorem IsOrdered.put {table : HandleTable α} (h : table.IsOrdered) (handle : Handle)
    (value : α) : (table.put handle value).IsOrdered := by
  unfold IsOrdered HandleTable.put at *
  generalize table.entries = entries at h ⊢
  induction entries with
  | nil => simp [putEntry]
  | cons first rest ih =>
    obtain ⟨below, ordered⟩ := List.pairwise_cons.mp h
    dsimp only at ih ⊢
    unfold putEntry
    split
    · next same => exact List.pairwise_cons.mpr ⟨by simpa [same] using below, ordered⟩
    · next other =>
      split
      · next before =>
        refine List.pairwise_cons.mpr ⟨List.forall_mem_cons.mpr ⟨before, ?_⟩, h⟩
        intro entry mem
        exact UInt16.lt_trans before (below entry mem)
      · next notBefore =>
        have after : first.1.value < handle.value := by
          refine UInt16.lt_of_le_of_ne (UInt16.not_lt.mp notBefore) fun same => other ?_
          exact (congrArg Handle.mk same).symm
        have below : ∀ entry ∈ putEntry handle value rest, first.1.value < entry.1.value :=
          forall_mem_putEntry (first.1.value < ·.value) after below
        exact List.pairwise_cons.mpr ⟨below, ih ordered⟩

/-! ## Equality -/

theorem IsOrdered.nodup {table : HandleTable α} (h : table.IsOrdered) : table.entries.Nodup := by
  refine List.Pairwise.imp ?_ h
  rintro entry _ below rfl
  exact UInt16.lt_irrefl _ below

theorem mem_entries_iff {table : HandleTable α} (h : table.IsOrdered) {handle : Handle}
    {value : α} : (handle, value) ∈ table.entries ↔ table.get? handle = some value := by
  unfold IsOrdered get? at *
  generalize table.entries = entries at h ⊢
  induction entries with
  | nil => simp
  | cons first rest ih =>
    obtain ⟨below, ordered⟩ := List.pairwise_cons.mp h
    rw [List.mem_cons, ih ordered, List.find?_cons]
    by_cases same : first.1 = handle
    · have absent : rest.find? (·.1 == handle) = none := by
        rw [List.find?_eq_none]
        intro entry mem found
        have equal : entry.1 = handle := by simpa using found
        exact UInt16.lt_irrefl _ (equal ▸ same ▸ below entry mem)
      simp [same, absent, Prod.ext_iff, eq_comm]
    · have other : (handle, value) ≠ first := fun equal => same (congrArg Prod.fst equal).symm
      have passed : (first.1 == handle) = false := beq_eq_false_iff_ne.mpr same
      simp only [other, false_or, passed]

theorem eq_of_get? {table other : HandleTable α} (h : table.IsOrdered) (h' : other.IsOrdered)
    (same : ∀ handle, table.get? handle = other.get? handle) : table = other := by
  -- Both lists hold the same entries, and only one order of them is ordered.
  have perm : table.entries.Perm other.entries := by
    rw [List.perm_ext_iff_of_nodup h.nodup h'.nodup]
    intro entry
    rw [mem_entries_iff h, mem_entries_iff h', same]
  have entries : table.entries = other.entries :=
    perm.eq_of_pairwise (fun _ _ _ _ below above => absurd above (UInt16.lt_asymm below)) h h'
  cases table
  cases other
  exact congrArg HandleTable.mk entries

theorem put_get? {table : HandleTable α} (h : table.IsOrdered) {handle : Handle} {value : α}
    (here : table.get? handle = some value) : table.put handle value = table := by
  apply eq_of_get? (h.put handle value) h
  intro other
  by_cases same : other = handle
  · rw [same, get?_put_self, here]
  · rw [get?_put_of_ne same]

end RecordFile.HandleTable
