import RecordFile.Proofs.Store.Runs

/-! # Changes in another order

An insert moves the records behind it up by one place. With the places told anew, two changes can be
made in the other order.
-/

namespace RecordFile

/-! ## Rows -/

section Rows

variable {α : Type} {rows : List α} {i k : Nat} (a b : α)

theorem set_insertIdx_of_lt (before : k < i) :
    (rows.insertIdx i a).set k b = (rows.set k b).insertIdx i a := by
  apply List.ext_getElem?
  intro p
  simp only [List.getElem?_set, List.getElem?_insertIdx, List.length_insertIdx, List.length_set]
  grind

theorem set_insertIdx_self : (rows.insertIdx i a).set i b = rows.insertIdx i b := by
  apply List.ext_getElem?
  intro p
  simp only [List.getElem?_set, List.getElem?_insertIdx, List.length_insertIdx]
  grind

theorem set_insertIdx_of_gt (behind : i < k) (inside : i ≤ rows.length) :
    (rows.insertIdx i a).set k b = (rows.set (k - 1) b).insertIdx i a := by
  apply List.ext_getElem?
  intro p
  simp only [List.getElem?_set, List.getElem?_insertIdx, List.length_insertIdx, List.length_set]
  grind

end Rows

namespace Store

variable {store changed last : Store} {rows others : List Bytes} {index : Nat} {data : Bytes}
  {outcome : Except StoreError Store}

/-! ## Stores with other rows -/

/-- Nothing is new but the rows and the record count of the header. -/
structure Rewritten (store : Store) (rows : List Bytes) (changed : Store) : Prop where
  kept : changed = store.withRecords changed.records
  recordLength_eq : changed.records.recordLength = store.records.recordLength
  rows_eq : changed.records.rows = rows

theorem withRecords_withRecords (store : Store) (first second : Records) :
    (store.withRecords first).withRecords second = store.withRecords second := by
  simp only [withRecords, Header.set_set]

theorem rewritten_withRecords {records : Records}
    (length : records.recordLength = store.records.recordLength) :
    store.Rewritten records.rows (store.withRecords records) :=
  ⟨rfl, length, rfl⟩

theorem Rewritten.trans (h : store.Rewritten rows changed) (next : changed.Rewritten others last) :
    store.Rewritten others last where
  kept := by rw [next.kept, h.kept, withRecords_withRecords]; rfl
  recordLength_eq := next.recordLength_eq.trans h.recordLength_eq
  rows_eq := next.rows_eq

theorem Rewritten.unique (h : store.Rewritten rows changed) (h' : store.Rewritten rows last) :
    changed = last := by
  have records : changed.records = last.records :=
    Records.eq_of_rows (h.recordLength_eq.trans h'.recordLength_eq.symm)
      (h.rows_eq.trans h'.rows_eq.symm)
  rw [h.kept, h'.kept, records]

/-! ## Outcomes -/

def LeadsTo (store : Store) (rows : List Bytes) (outcome : Except StoreError Store) : Prop :=
  ∃ changed, outcome = .ok changed ∧ store.Rewritten rows changed

theorem LeadsTo.unique {other : Except StoreError Store} (h : store.LeadsTo rows outcome)
    (h' : store.LeadsTo rows other) : outcome = other := by
  obtain ⟨changed, rfl, rewritten⟩ := h
  obtain ⟨last, rfl, again⟩ := h'
  rw [rewritten.unique again]

theorem leadsTo_insert (fits : data.length = store.records.recordLength)
    (inside : index ≤ store.records.rows.length) (room : store.records.rows.length < maxRecords) :
    store.LeadsTo (store.records.rows.insertIdx index data) (store.insert index data) := by
  obtain ⟨records, inserted⟩ := Records.exists_insert fits inside room
  obtain ⟨-, -, -, length, rows⟩ := Records.insert_eq_ok_iff.mp inserted
  rw [← rows, insert, inserted]
  exact ⟨_, rfl, rewritten_withRecords length⟩

theorem leadsTo_update (fits : data.length = store.records.recordLength)
    (place : index < store.records.rows.length ∨ (store.records.rows = [] ∧ index = 0)) :
    store.LeadsTo (store.records.updatedRows index data) (store.update index data) := by
  obtain ⟨records, updated⟩ := Records.exists_update fits place
  obtain ⟨-, -, length, rows⟩ := Records.update_eq_ok_iff.mp updated
  rw [← rows, update, updated]
  exact ⟨_, rfl, rewritten_withRecords length⟩

theorem leadsTo_update_inside (fits : data.length = store.records.recordLength)
    (inside : index < store.records.rows.length) :
    store.LeadsTo (store.records.rows.set index data) (store.update index data) := by
  have some := List.ne_nil_of_length_pos (Nat.zero_lt_of_lt inside)
  have leads := leadsTo_update fits (.inl inside)
  rwa [Records.updatedRows, if_neg some] at leads

theorem LeadsTo.insert (h : store.LeadsTo rows outcome)
    (fits : data.length = store.records.recordLength) (inside : index ≤ rows.length)
    (room : rows.length < maxRecords) :
    store.LeadsTo (rows.insertIdx index data) (outcome >>= (·.insert index data)) := by
  obtain ⟨changed, rfl, rewritten⟩ := h
  have length := rewritten.recordLength_eq
  obtain rfl := rewritten.rows_eq
  obtain ⟨last, inserted, again⟩ := leadsTo_insert (fits.trans length.symm) inside room
  exact ⟨last, inserted, rewritten.trans again⟩

theorem LeadsTo.update (h : store.LeadsTo rows outcome)
    (fits : data.length = store.records.recordLength) (inside : index < rows.length) :
    store.LeadsTo (rows.set index data) (outcome >>= (·.update index data)) := by
  obtain ⟨changed, rfl, rewritten⟩ := h
  have length := rewritten.recordLength_eq
  obtain rfl := rewritten.rows_eq
  obtain ⟨last, updated, again⟩ := leadsTo_update_inside (fits.trans length.symm) inside
  exact ⟨last, updated, rewritten.trans again⟩

/-! ## Two changes -/

section Two

variable {a b : Bytes} {i j k : Nat}

theorem insert_insert (fitsA : a.length = store.records.recordLength)
    (fitsB : b.length = store.records.recordLength) (order : i ≤ j)
    (inside : j ≤ store.records.rows.length) (room : store.records.rows.length + 1 < maxRecords) :
    let both := store.insert j b >>= (·.insert i a)
    store.LeadsTo ((store.records.rows.insertIdx j b).insertIdx i a) both ∧
      (store.insert i a >>= (·.insert (j + 1) b)) = both := by
  intro both
  have insideA := Nat.le_trans order inside
  have longerA := List.length_insertIdx_of_le_length insideA a
  have longerB := List.length_insertIdx_of_le_length inside b
  have later : store.LeadsTo _ both :=
    (leadsTo_insert fitsB inside (by omega)).insert fitsA (by omega) (by omega)
  have sooner : store.LeadsTo _ (store.insert i a >>= (·.insert (j + 1) b)) :=
    (leadsTo_insert fitsA insideA (by omega)).insert fitsB (by omega) (by omega)
  rw [List.insertIdx_comm a b order inside] at sooner
  exact ⟨later, sooner.unique later⟩

theorem update_comm (fitsA : a.length = store.records.recordLength)
    (fitsB : b.length = store.records.recordLength) (insideA : i < store.records.rows.length)
    (insideB : j < store.records.rows.length) (apart : i ≠ j) :
    let both := store.update i a >>= (·.update j b)
    store.LeadsTo ((store.records.rows.set i a).set j b) both ∧
      (store.update j b >>= (·.update i a)) = both := by
  intro both
  have later : store.LeadsTo _ both :=
    (leadsTo_update_inside fitsA insideA).update fitsB (by rwa [List.length_set])
  have sooner : store.LeadsTo _ (store.update j b >>= (·.update i a)) :=
    (leadsTo_update_inside fitsB insideB).update fitsA (by rwa [List.length_set])
  rw [List.set_comm b a apart.symm] at sooner
  exact ⟨later, sooner.unique later⟩

theorem update_update (fitsA : a.length = store.records.recordLength)
    (fitsB : b.length = store.records.recordLength) (i : Nat) :
    (store.update i a >>= (·.update i b)) = store.update i b := by
  by_cases place : i < store.records.rows.length ∨ (store.records.rows = [] ∧ i = 0)
  · have once := leadsTo_update fitsB place
    have first := leadsTo_update fitsA place
    have more : i < (store.records.updatedRows i a).length := by
      rw [Records.length_updatedRows, Records.count]
      omega
    have twice := first.update fitsB more
    have same : (store.records.updatedRows i a).set i b = store.records.updatedRows i b := by
      unfold Records.updatedRows
      split
      · -- The first update makes the record that the second one replaces.
        next none =>
        obtain ⟨-, rfl⟩ := place.resolve_left (by simp [none])
        rfl
      · rw [List.set_set]
    rw [same] at twice
    exact twice.unique once
  · -- Both sides fail alike.
    rw [not_or] at place
    obtain ⟨outside, notFirst⟩ := place
    have outside := Nat.le_of_not_lt outside
    rw [update, update, Records.update_outside fitsA outside notFirst,
      Records.update_outside fitsB outside notFirst]
    rfl

theorem insert_update (fitsA : a.length = store.records.recordLength)
    (fitsB : b.length = store.records.recordLength) (insideA : i ≤ store.records.rows.length)
    (insideB : k ≤ store.records.rows.length) (room : store.records.rows.length < maxRecords) :
    let both := store.insert i a >>= (·.update k b)
    store.LeadsTo ((store.records.rows.insertIdx i a).set k b) both ∧
      (k < i → (store.update k b >>= (·.insert i a)) = both) ∧
      (k = i → store.insert i b = both) ∧
      (i < k → (store.update (k - 1) b >>= (·.insert i a)) = both) := by
  intro both
  have longer := List.length_insertIdx_of_le_length insideA a
  have leads : store.LeadsTo _ both := (leadsTo_insert fitsA insideA room).update fitsB (by omega)
  -- An update that comes first finds the record where it is before the insert.
  have sooner : ∀ p, p < store.records.rows.length → store.LeadsTo _
      (store.update p b >>= (·.insert i a)) := fun p inside =>
    (leadsTo_update_inside fitsB inside).insert fitsA (by rwa [List.length_set])
      (by rwa [List.length_set])
  refine ⟨leads, ?_, ?_, ?_⟩
  · intro before
    rw [set_insertIdx_of_lt a b before] at leads
    exact (sooner k (by omega)).unique leads
  · rintro rfl
    rw [set_insertIdx_self] at leads
    exact (leadsTo_insert fitsB insideA room).unique leads
  · intro behind
    rw [set_insertIdx_of_gt a b behind insideA] at leads
    exact (sooner (k - 1) (by omega)).unique leads

end Two

/-- Inserts and updates can change places, and the same store comes out. -/
theorem changes_reordered (store : Store) {a b : Bytes}
    (fitsA : a.length = store.records.recordLength)
    (fitsB : b.length = store.records.recordLength) :
    let rows := store.records.rows
    let n := store.records.count
    (∀ i j, i ≤ j → j ≤ n → n ≤ 65533 →
      let both := store.insert j b >>= (·.insert i a)
      store.LeadsTo ((rows.insertIdx j b).insertIdx i a) both ∧
      (store.insert i a >>= (·.insert (j + 1) b)) = both) ∧
    (∀ i j, i < n → j < n → i ≠ j →
      let both := store.update i a >>= (·.update j b)
      store.LeadsTo ((rows.set i a).set j b) both ∧
      (store.update j b >>= (·.update i a)) = both) ∧
    (∀ i, (store.update i a >>= (·.update i b)) = store.update i b ∧
      (i < n → store.LeadsTo (rows.set i b) (store.update i b))) ∧
    ∀ i k, i ≤ n → k ≤ n → n < 65535 →
      let both := store.insert i a >>= (·.update k b)
      store.LeadsTo ((rows.insertIdx i a).set k b) both ∧
      (k < i → (store.update k b >>= (·.insert i a)) = both) ∧
      (k = i → store.insert i b = both) ∧
      (i < k → (store.update (k - 1) b >>= (·.insert i a)) = both) := by
  intro rows n
  refine ⟨?_, ?_, ?_, ?_⟩
  · intro i j order inside room
    exact insert_insert fitsA fitsB order inside (Nat.lt_of_le_of_lt (Nat.succ_le_succ room)
      (by decide))
  · intro i j insideA insideB apart
    exact update_comm fitsA fitsB insideA insideB apart
  · intro i
    exact ⟨update_update fitsA fitsB i, leadsTo_update_inside fitsB⟩
  · intro i k insideA insideB room
    exact insert_update fitsA fitsB insideA insideB room

theorem changes_reordered_sample :
    let store := sample.run [.insert 1 [67, 68]]
    let empty : Store := { sample with header := .new 2, records := .empty 2 }
    let a : Bytes := [69, 70]
    let b : Bytes := [71, 72]
    store.LeadsTo [[65, 66], a, [67, 68], b] (store.insert 2 b >>= (·.insert 1 a)) ∧
      (store.insert 1 a >>= (·.insert 3 b)) = (store.insert 2 b >>= (·.insert 1 a)) ∧
      (store.update 1 b >>= (·.update 0 a)) = (store.update 0 a >>= (·.update 1 b)) ∧
      (store.update 1 b >>= (·.insert 1 a)) = (store.insert 1 a >>= (·.update 2 b)) ∧
      (empty.update 0 a >>= (·.update 0 b)) = empty.update 0 b ∧
      empty.insert 0 b = (empty.insert 0 a >>= (·.update 0 b)) := by
  intro store empty a b
  obtain ⟨inserts, updates, -, mixed⟩ := changes_reordered store (a := a) (b := b) rfl rfl
  obtain ⟨-, -, same, made⟩ := changes_reordered empty (a := a) (b := b) rfl rfl
  obtain ⟨leads, inserted⟩ := inserts 1 2 (by decide) (by decide) (by decide)
  obtain ⟨-, updated⟩ := updates 0 1 (by decide) (by decide) (by decide)
  obtain ⟨-, -, -, moved⟩ := mixed 1 2 (by decide) (by decide) (by decide)
  obtain ⟨-, -, replaced, -⟩ := made 0 0 (by decide) (by decide) (by decide)
  exact ⟨leads, inserted, updated, moved (by decide), (same 0).1, replaced rfl⟩

end Store

end RecordFile
