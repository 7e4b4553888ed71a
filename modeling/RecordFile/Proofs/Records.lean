import RecordFile.Proofs.Bytes
import RecordFile.Store.Records

/-! # When records load and change

Each operation on records succeeds under exact conditions, and its outcome is told by the rows
alone, since the record length never changes.
-/

namespace RecordFile.Records

theorem eq_of_rows {records other : Records} (length : records.recordLength = other.recordLength)
    (rows : records.rows = other.rows) : records = other := by
  cases records
  cases other
  subst length rows
  rfl

theorem length_flatten (records : Records) :
    records.flatten.length = records.recordLength * records.count :=
  Bytes.length_flatten_of_uniform records.uniform

theorem get_eq_ok_iff {records : Records} {index : Nat} {row : Bytes} :
    records.get index = .ok row ↔ records.rows[index]? = some row := by
  unfold get
  cases records.rows[index]? <;> simp

/-! ## Loading -/

theorem load_eq_ok_iff {image : Bytes} {dataOffset recordLength count : Nat} {records : Records} :
    load image dataOffset recordLength count = .ok records ↔
      dataOffset + recordLength * count < addressLimit ∧
      (0 < count → dataOffset + recordLength * count ≤ image.length) ∧
      records.recordLength = recordLength ∧
      records.rows = Bytes.pieces recordLength count (image.drop dataOffset) := by
  unfold load
  dsimp only
  constructor
  · intro h
    split at h
    · cases h
    · next room =>
      split at h
      · cases h
      · next long =>
        cases h
        exact ⟨by omega, fun some => by omega, rfl, rfl⟩
  · rintro ⟨room, long, length, rows⟩
    rw [if_neg (by omega), dif_neg (by omega)]
    exact congrArg Except.ok (eq_of_rows length.symm rows.symm)

/-! ## Changing -/

theorem insert_eq_ok_iff {records changed : Records} {index : Nat} {data : Bytes} :
    records.insert index data = .ok changed ↔
      data.length = records.recordLength ∧ index ≤ records.count ∧ records.count < maxRecords ∧
      changed.recordLength = records.recordLength ∧
      changed.rows = records.rows.insertIdx index data := by
  unfold insert
  constructor
  · intro h
    split at h
    · next fits =>
      split at h
      · cases h
      · split at h
        · cases h
        · cases h
          exact ⟨fits, by omega, by omega, rfl, rfl⟩
    · cases h
  · rintro ⟨fits, inside, room, length, rows⟩
    rw [dif_pos fits, dif_neg (by omega), if_neg (by omega)]
    exact congrArg Except.ok (eq_of_rows length.symm rows.symm)

theorem exists_insert {records : Records} {index : Nat} {data : Bytes}
    (fits : data.length = records.recordLength) (inside : index ≤ records.count)
    (room : records.count < maxRecords) : ∃ changed, records.insert index data = .ok changed := by
  rw [insert, dif_pos fits, dif_neg (Nat.not_lt_of_le inside), if_neg (Nat.not_le_of_lt room)]
  exact ⟨_, rfl⟩

theorem insert_wrong_length {records : Records} {data : Bytes} (index : Nat)
    (wrong : data.length ≠ records.recordLength) :
    records.insert index data = .error (.lengthMismatch records.recordLength data.length) := by
  rw [insert, dif_neg wrong]

theorem insert_outside {records : Records} {index : Nat} {data : Bytes}
    (fits : data.length = records.recordLength) (outside : records.count < index) :
    records.insert index data = .error (.indexOutOfRange index records.count) := by
  rw [insert, dif_pos fits, dif_pos outside]

theorem insert_full {records : Records} {index : Nat} {data : Bytes}
    (fits : data.length = records.recordLength) (inside : index ≤ records.count)
    (full : maxRecords ≤ records.count) : records.insert index data = .error .storeFull := by
  rw [insert, dif_pos fits, dif_neg (Nat.not_lt_of_le inside), if_pos full]

def updatedRows (records : Records) (index : Nat) (data : Bytes) : List Bytes :=
  if records.rows = [] then [data] else records.rows.set index data

theorem update_eq_ok_iff {records changed : Records} {index : Nat} {data : Bytes} :
    records.update index data = .ok changed ↔
      data.length = records.recordLength ∧
      (index < records.count ∨ (records.rows = [] ∧ index = 0)) ∧
      changed.recordLength = records.recordLength ∧
      changed.rows = records.updatedRows index data := by
  unfold update updatedRows
  simp only [List.isEmpty_iff]
  constructor
  · intro h
    split at h
    · next fits =>
      split at h
      · next bare =>
        cases h
        exact ⟨fits, .inr bare, rfl, (if_pos bare.1).symm⟩
      · split at h
        · next inside =>
          cases h
          have some : records.rows ≠ [] := by
            intro none
            simp [count, none] at inside
          exact ⟨fits, .inl inside, rfl, (if_neg some).symm⟩
        · cases h
    · cases h
  · rintro ⟨fits, place, length, rows⟩
    rw [dif_pos fits]
    by_cases none : records.rows = []
    · have first : index = 0 := by
        rcases place with inside | bare
        · simp [count, none] at inside
        · exact bare.2
      rw [if_pos none] at rows
      rw [if_pos ⟨none, first⟩]
      exact congrArg Except.ok (eq_of_rows length.symm rows.symm)
    · have inside : index < records.count := place.resolve_right fun bare => none bare.1
      rw [if_neg none] at rows
      rw [if_neg fun bare => none bare.1, if_pos inside]
      exact congrArg Except.ok (eq_of_rows length.symm rows.symm)

theorem exists_update {records : Records} {index : Nat} {data : Bytes}
    (fits : data.length = records.recordLength)
    (place : index < records.count ∨ (records.rows = [] ∧ index = 0)) :
    ∃ changed, records.update index data = .ok changed := by
  simp only [update, List.isEmpty_iff]
  rw [dif_pos fits]
  split
  · exact ⟨_, rfl⟩
  · next notFirst =>
    rw [if_pos (place.resolve_right notFirst)]
    exact ⟨_, rfl⟩

theorem update_wrong_length {records : Records} {data : Bytes} (index : Nat)
    (wrong : data.length ≠ records.recordLength) :
    records.update index data = .error (.lengthMismatch records.recordLength data.length) := by
  rw [update, dif_neg wrong]

theorem update_outside {records : Records} {index : Nat} {data : Bytes}
    (fits : data.length = records.recordLength) (outside : records.count ≤ index)
    (notFirst : ¬(records.rows = [] ∧ index = 0)) :
    records.update index data = .error (.indexOutOfRange index records.count) := by
  simp only [update, List.isEmpty_iff]
  rw [dif_pos fits, if_neg notFirst, if_neg (Nat.not_lt_of_le outside)]

/-- One successful change of the rows. -/
def Changes (records changed : Records) : Prop :=
  ∃ index data, records.insert index data = .ok changed ∨ records.update index data = .ok changed

theorem Changes.recordLength_eq {records changed : Records} (h : Changes records changed) :
    changed.recordLength = records.recordLength := by
  obtain ⟨index, data, inserted | updated⟩ := h
  · exact (insert_eq_ok_iff.mp inserted).2.2.2.1
  · exact (update_eq_ok_iff.mp updated).2.2.1

theorem length_updatedRows (records : Records) (index : Nat) (data : Bytes) :
    (records.updatedRows index data).length = max records.count 1 := by
  unfold updatedRows count
  split
  · next none => simp [none]
  · next some =>
    have := List.length_pos_iff.mpr some
    rw [List.length_set]
    omega

theorem Changes.le_count {records changed : Records} (h : Changes records changed) :
    records.count ≤ changed.count := by
  obtain ⟨index, data, inserted | updated⟩ := h
  · obtain ⟨-, inside, -, -, rows⟩ := insert_eq_ok_iff.mp inserted
    unfold count at inside ⊢
    rw [rows, List.length_insertIdx, if_pos inside]
    omega
  · obtain ⟨-, -, -, rows⟩ := update_eq_ok_iff.mp updated
    have length := records.length_updatedRows index data
    rw [← rows] at length
    change records.count ≤ changed.rows.length
    omega

theorem Changes.count_le {records changed : Records} (h : Changes records changed)
    (fits : records.count ≤ maxRecords) : changed.count ≤ maxRecords := by
  obtain ⟨index, data, inserted | updated⟩ := h
  · obtain ⟨-, inside, room, -, rows⟩ := insert_eq_ok_iff.mp inserted
    unfold count at inside room ⊢
    rw [rows, List.length_insertIdx, if_pos inside]
    omega
  · obtain ⟨-, -, -, rows⟩ := update_eq_ok_iff.mp updated
    have length := records.length_updatedRows index data
    unfold maxRecords at fits ⊢
    rw [← rows] at length
    change changed.rows.length ≤ 65535
    omega

end RecordFile.Records
