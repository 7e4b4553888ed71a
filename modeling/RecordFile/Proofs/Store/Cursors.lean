import RecordFile.Proofs.Store.Runs

/-! # Where the cursor stands

Only a step to the next record can leave the records, and records are never taken away, so a cursor
on a record stays on one.
-/

namespace RecordFile.Store

variable {store : Store} {operation : Operation} {operations : List Operation} {data row : Bytes}

def OnRecord (store : Store) : Prop := store.position < store.records.count

/-- The cursor is on a record, or where the first one can be made. -/
def Placed (store : Store) : Prop := store.position = 0 ∨ store.OnRecord

theorem Placed.position_le (h : store.Placed) : store.position ≤ store.records.count := by
  unfold Placed OnRecord at h
  omega

/-! ## Other positions -/

def movedTo (store : Store) (position : Nat) : Store := { store with cursor := ⟨position⟩ }

@[simp] theorem movedTo_position (store : Store) (position : Nat) :
    (store.movedTo position).position = position := rfl

@[simp] theorem movedTo_records (store : Store) (position : Nat) :
    (store.movedTo position).records = store.records := rfl

@[simp] theorem movedTo_movedTo (store : Store) (first second : Nat) :
    (store.movedTo first).movedTo second = store.movedTo second := rfl

theorem stepFirst_of_pos (filled : 0 < store.records.count) :
    store.stepFirst = (.found, store.movedTo 0) := by
  simp [stepFirst, Cursor.stepFirst, Status.ofBool, filled, movedTo]

theorem stepNext_eq (store : Store) : store.stepNext =
    (.found, store.movedTo (min (store.position + 1) Cursor.maxPosition)) := rfl

theorem stepNext_movedTo (store : Store) {index : Nat} (small : index ≤ maxRecords) :
    (store.movedTo index).stepNext = (.found, store.movedTo (index + 1)) := by
  -- The last position is far behind the last record that there can be.
  have room : index + 1 ≤ Cursor.maxPosition :=
    Nat.le_trans (Nat.succ_le_succ small) (by decide)
  rw [stepNext_eq, movedTo_position, Nat.min_eq_left room, movedTo_movedTo]

/-! ## Stores that can be read -/

theorem current_eq_ok_iff : store.current = .ok row ↔
    store.records.rows[store.position]? = some row :=
  Records.get_eq_ok_iff

theorem onRecord_iff : store.OnRecord ↔ ∃ record, store.current = .ok record := by
  simp only [current_eq_ok_iff, List.getElem?_eq_some_iff]
  constructor
  · intro inside
    exact ⟨_, inside, rfl⟩
  · rintro ⟨_, inside, -⟩
    exact inside

theorem current_eq_error_iff {error : StoreError} : store.current = .error error ↔
    store.records.count ≤ store.position ∧
      error = .indexOutOfRange store.position store.records.count := by
  unfold current get Records.get
  constructor
  · intro failed
    split at failed
    · cases failed
    · next outside =>
      cases failed
      exact ⟨List.getElem?_eq_none_iff.mp outside, rfl⟩
  · rintro ⟨outside, rfl⟩
    rw [List.getElem?_eq_none outside]

/-! ## Found records -/

theorem onRecord_stepFirst (found : store.stepFirst.1 = .found) : store.stepFirst.2.OnRecord := by
  by_cases some : 0 < store.records.count
  · exact some
  · simp [stepFirst, Cursor.stepFirst, Status.ofBool, some] at found

theorem moveTo_cases {leads : Option Nat}
    (inside : ∀ index, leads = some index → index < store.records.count) :
    store.moveTo leads = (.notFound, store) ∨ (store.moveTo leads).2.OnRecord := by
  cases leads with
  | none => exact .inl rfl
  | some index => exact .inr (inside index rfl)

theorem findLeading?_lt {records : Records} {sought : Bytes} {index : Nat}
    (leads : records.findLeading? sought = some index) : index < records.count := by
  obtain ⟨inside, -⟩ := List.findIdx?_eq_some_iff_getElem.mp leads
  exact inside

theorem lookup?_lt {number : UInt16} {sought : Bytes} {index : Nat}
    (leads : store.lookup? number sought = some index) : index < store.records.count := by
  unfold lookup? at leads
  split at leads
  all_goals
    obtain ⟨inside, -⟩ := List.findIdx?_eq_some_iff_getElem.mp leads
    exact inside

theorem findLeading_cases (store : Store) (sought : Bytes) :
    store.findLeading sought = (.notFound, store) ∨ (store.findLeading sought).2.OnRecord :=
  moveTo_cases fun _ => findLeading?_lt

theorem findEqual_cases (store : Store) (number : UInt16) (sought : Bytes) :
    store.findEqual number sought = (.notFound, store) ∨
      (store.findEqual number sought).2.OnRecord :=
  moveTo_cases fun _ => lookup?_lt

theorem onRecord_findLeading {sought : Bytes} (found : (store.findLeading sought).1 = .found) :
    (store.findLeading sought).2.OnRecord := by
  refine (store.findLeading_cases sought).resolve_left fun missed => ?_
  simp [missed] at found

theorem onRecord_findEqual {number : UInt16} {sought : Bytes}
    (found : (store.findEqual number sought).1 = .found) :
    (store.findEqual number sought).2.OnRecord := by
  refine (store.findEqual_cases number sought).resolve_left fun missed => ?_
  simp [missed] at found

/-! ## One operation -/

theorem le_count_apply (store : Store) (operation : Operation) :
    store.records.count ≤ (store.apply operation).2.records.count := by
  rcases store.apply_cases operation with ⟨_, failed⟩ | ⟨-, _, _, moved⟩ |
    ⟨-, records, changes, applied⟩
  · exact Nat.le_of_eq (by rw [failed])
  · exact Nat.le_of_eq (by rw [moved])
  · rw [applied]
    exact changes.le_count

theorem position_settle {outcome : Except StoreError Store}
    (kept : ∀ changed, outcome = .ok changed → changed.position = store.position) :
    (store.settle outcome).2.position = store.position := by
  cases outcome with
  | error error => rfl
  | ok changed => exact kept changed rfl

theorem position_map_withRecords {outcome : Except StoreError Records} {changed : Store}
    (done : outcome.map store.withRecords = .ok changed) : changed.position = store.position := by
  obtain ⟨records, -, rfl⟩ := map_eq_ok_iff.mp done
  rfl

theorem position_apply (store : Store) (other : operation ≠ .stepNext) :
    (store.apply operation).2.position = store.position ∨
      (store.apply operation).2.position = 0 ∨ (store.apply operation).2.OnRecord := by
  cases operation with
  | insert | insertHere | update | updateHere =>
    exact .inl (position_settle fun _ => position_map_withRecords)
  | defineKey number length data =>
    refine .inl (position_settle fun changed done => ?_)
    obtain ⟨keys, rfl⟩ := defineKey_eq_ok done
    rfl
  | stepFirst => exact .inr (.inl rfl)
  | stepNext => exact absurd rfl other
  | findLeading sought =>
    rcases store.findLeading_cases sought with missed | found
    · exact .inl (congrArg (·.2.position) missed)
    · exact .inr (.inr found)
  | findEqual number sought =>
    rcases store.findEqual_cases number sought with missed | found
    · exact .inl (congrArg (·.2.position) missed)
    · exact .inr (.inr found)

theorem OnRecord.apply (h : store.OnRecord) (other : operation ≠ .stepNext) :
    (store.apply operation).2.OnRecord := by
  have more := store.le_count_apply operation
  have place := store.position_apply other
  unfold OnRecord at *
  omega

theorem Placed.apply (h : store.Placed) (other : operation ≠ .stepNext) :
    (store.apply operation).2.Placed := by
  have more := store.le_count_apply operation
  have place := store.position_apply other
  unfold Placed OnRecord at *
  omega

/-! ## Runs -/

theorem le_count_run (store : Store) (operations : List Operation) :
    store.records.count ≤ (store.run operations).records.count :=
  run_induction (p := fun later => store.records.count ≤ later.records.count) (Nat.le_refl _)
    fun _ more => Nat.le_trans more (le_count_apply _ _)

theorem OnRecord.run (h : store.OnRecord) (stays : .stepNext ∉ operations) :
    (store.run operations).OnRecord :=
  run_induction h fun mem onRecord => onRecord.apply (ne_of_mem_of_not_mem mem stays)

theorem Placed.run (h : store.Placed) (stays : .stepNext ∉ operations) :
    (store.run operations).Placed :=
  run_induction h fun mem placed => placed.apply (ne_of_mem_of_not_mem mem stays)

/-! ## Changes at the cursor -/

theorem Placed.exists_updateHere (h : store.Placed)
    (fits : data.length = store.records.recordLength) :
    ∃ records, store.updateHere data = .ok (store.withRecords records) ∧
      (store.records.count = 0 → records.rows = [data]) := by
  have place : store.position < store.records.count ∨
      (store.records.rows = [] ∧ store.position = 0) := by
    rw [← List.length_eq_zero_iff]
    unfold Placed OnRecord Records.count at *
    omega
  obtain ⟨records, updated⟩ := Records.exists_update fits place
  obtain ⟨-, -, -, rows⟩ := Records.update_eq_ok_iff.mp updated
  refine ⟨records, map_eq_ok_iff.mpr ⟨records, updated, rfl⟩, ?_⟩
  intro empty
  rw [rows, Records.updatedRows, if_pos (List.length_eq_zero_iff.mp empty)]

theorem exists_insertHere (inside : store.position ≤ store.records.count)
    (fits : data.length = store.records.recordLength) (room : store.records.count < maxRecords) :
    ∃ records, store.insertHere data = .ok (store.withRecords records) ∧
      records.rows = store.records.rows.insertIdx store.position data := by
  obtain ⟨records, inserted⟩ := Records.exists_insert fits inside room
  obtain ⟨-, -, -, -, rows⟩ := Records.insert_eq_ok_iff.mp inserted
  exact ⟨records, map_eq_ok_iff.mpr ⟨records, inserted, rfl⟩, rows⟩

theorem insertHere_outside (outside : store.records.count < store.position)
    (fits : data.length = store.records.recordLength) :
    store.insertHere data = .error (.indexOutOfRange store.position store.records.count) := by
  rw [insertHere, insert, Records.insert_outside fits outside]
  rfl

theorem insertHere_full (inside : store.position ≤ store.records.count)
    (fits : data.length = store.records.recordLength) (full : maxRecords ≤ store.records.count) :
    store.insertHere data = .error .storeFull := by
  rw [insertHere, insert, Records.insert_full fits inside full]
  rfl

end RecordFile.Store
