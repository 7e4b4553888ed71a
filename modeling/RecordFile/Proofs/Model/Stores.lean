import RecordFile.Model.Basic
import RecordFile.Proofs.Store.Runs

/-! # A store seen as a list and a position

Every record call does to a store what the model says about its rows and its position.
-/

namespace RecordFile

/-! ## Rows -/

theorem insertIdx_eq_take_append {α : Type} {rows : List α} {index : Nat} (row : α)
    (inside : index ≤ rows.length) :
    rows.insertIdx index row = rows.take index ++ row :: rows.drop index := by
  induction index generalizing rows with
  | zero => rfl
  | succ index ih =>
    cases rows with
    | nil => simp at inside
    | cons first rest =>
      rw [List.insertIdx_succ_cons, ih (by simpa using inside)]
      rfl

namespace Model

theorem findIdx?_isPrefixOf (key : Bytes) (rows : List Bytes) :
    rows.findIdx? (key.isPrefixOf ·) = indexOfKey? key rows := by
  induction rows with
  | nil => rfl
  | cons row rest ih =>
    have begins : key.isPrefixOf row = true ↔ row.take key.length = key := by
      rw [List.isPrefixOf_iff_prefix, List.prefix_iff_eq_take, eq_comm]
    rw [List.findIdx?_cons, indexOfKey?, ih]
    by_cases h : row.take key.length = key
    · rw [if_pos (begins.mpr h), if_pos h]
    · rw [if_neg fun found => h (begins.mp found), if_neg h]

/-! ## Laws of the model -/

section Laws

variable (model : Model) {record : Bytes}

theorem insert_wrong_length (wrong : record.length ≠ model.recordLength) :
    model.insert record = .error (.lengthMismatch model.recordLength record.length) :=
  if_pos wrong

theorem insert_outside (fits : record.length = model.recordLength)
    (outside : model.rows.length < model.position) :
    model.insert record = .error (.indexOutOfRange model.position model.rows.length) := by
  rw [insert, if_neg fun wrong => wrong fits, if_pos outside]

theorem insert_full (fits : record.length = model.recordLength)
    (inside : model.position ≤ model.rows.length) (full : model.rows.length = maxRecords) :
    model.insert record = .error .storeFull := by
  rw [insert, if_neg fun wrong => wrong fits, if_neg (Nat.not_lt_of_le inside), if_pos full]

theorem insert_inside (fits : record.length = model.recordLength)
    (inside : model.position ≤ model.rows.length) (room : model.rows.length ≠ maxRecords) :
    model.insert record =
      .ok { model with rows := model.rows.insertIdx model.position record } := by
  rw [insert, if_neg fun wrong => wrong fits, if_neg (Nat.not_lt_of_le inside), if_neg room,
    insertIdx_eq_take_append record inside]

theorem update_wrong_length (wrong : record.length ≠ model.recordLength) :
    model.update record = .error (.lengthMismatch model.recordLength record.length) :=
  if_pos wrong

theorem update_first (fits : record.length = model.recordLength)
    (first : model.rows = [] ∧ model.position = 0) :
    model.update record = .ok { model with rows := [record] } := by
  rw [update, if_neg fun wrong => wrong fits, if_pos first]

theorem update_inside (fits : record.length = model.recordLength)
    (inside : model.position < model.rows.length) :
    model.update record = .ok { model with rows := model.rows.set model.position record } := by
  have some : model.rows ≠ [] := List.ne_nil_of_length_pos (Nat.zero_lt_of_lt inside)
  rw [update, if_neg fun wrong => wrong fits, if_neg fun first => some first.1, if_pos inside,
    List.set_eq_take_append_cons_drop, if_pos inside]

theorem update_outside (fits : record.length = model.recordLength)
    (outside : model.rows.length ≤ model.position)
    (notFirst : ¬(model.rows = [] ∧ model.position = 0)) :
    model.update record = .error (.indexOutOfRange model.position model.rows.length) := by
  rw [update, if_neg fun wrong => wrong fits, if_neg notFirst, if_neg (Nat.not_lt_of_le outside)]

end Laws

/-! ## The model of a store -/

def ofStore (store : Store) : Model where
  recordLength := store.records.recordLength
  rows := store.records.rows
  position := store.position

/-- The header counts the records, and no key is defined. -/
structure IsPlain (store : Store) : Prop where
  count_eq : store.count.toNat = store.records.count
  count_le : store.records.count ≤ maxRecords
  keys_eq : store.keys = .empty

variable {store : Store}

theorem IsPlain.withRecords (h : IsPlain store) {records : Records}
    (changes : Records.Changes store.records records) : IsPlain (store.withRecords records) := by
  have few := changes.count_le h.count_le
  refine ⟨?_, few, h.keys_eq⟩
  unfold Store.count Store.withRecords
  exact store.header.toNat_get_set_recordCount few

theorem IsPlain.withCursor (h : IsPlain store) (cursor : Cursor) : IsPlain { store with cursor } :=
  ⟨h.count_eq, h.count_le, h.keys_eq⟩

theorem isPlain_of_openFrom {name : String} {image? : Option Bytes} {recordLength : UInt16}
    {settings : Settings}
    (opened : Store.openFrom name image? recordLength settings = .ok store) : IsPlain store where
  count_eq := Store.count_of_openFrom opened
  count_le := (Store.follows_of_openFrom opened).count_le
  keys_eq := (Store.settled_of_openFrom opened).2.2.2.2.1

/-! ## Changing records -/

theorem ofStore_withRecords {records : Records} {rows : List Bytes}
    (length : records.recordLength = store.records.recordLength) (changed : records.rows = rows) :
    ofStore (store.withRecords records) = { ofStore store with rows } := by
  rw [ofStore, ← changed]
  exact congrArg (Model.mk · records.rows store.position) length

theorem map_insertHere (h : IsPlain store) (record : Bytes) :
    (store.insertHere record).map ofStore = (ofStore store).insert record := by
  have outcome : store.insertHere record =
      (store.records.insert store.position record).map store.withRecords := rfl
  rw [outcome]
  -- Both sides make the same checks in the same order.
  by_cases fits : record.length = store.records.recordLength
  · by_cases outside : store.records.count < store.position
    · rw [Records.insert_outside fits outside, (ofStore store).insert_outside fits outside]
      rfl
    · have inside := Nat.le_of_not_lt outside
      by_cases full : store.records.count = maxRecords
      · rw [Records.insert_full fits inside (Nat.le_of_eq full.symm),
          (ofStore store).insert_full fits inside full]
        rfl
      · have room := Nat.lt_of_le_of_ne h.count_le full
        obtain ⟨changed, inserted⟩ := Records.exists_insert fits inside room
        obtain ⟨-, -, -, length, rows⟩ := Records.insert_eq_ok_iff.mp inserted
        rw [inserted, (ofStore store).insert_inside fits inside full]
        exact congrArg Except.ok (ofStore_withRecords length rows)
  · rw [Records.insert_wrong_length _ fits, (ofStore store).insert_wrong_length fits]
    rfl

theorem map_updateHere (store : Store) (record : Bytes) :
    (store.updateHere record).map ofStore = (ofStore store).update record := by
  have outcome : store.updateHere record =
      (store.records.update store.position record).map store.withRecords := rfl
  rw [outcome]
  by_cases fits : record.length = store.records.recordLength
  · by_cases first : store.records.rows = [] ∧ store.position = 0
    · -- An update makes the first record of an empty store.
      obtain ⟨changed, updated⟩ := Records.exists_update fits (.inr first)
      obtain ⟨-, -, length, rows⟩ := Records.update_eq_ok_iff.mp updated
      rw [Records.updatedRows, if_pos first.1] at rows
      rw [updated, (ofStore store).update_first fits first]
      exact congrArg Except.ok (ofStore_withRecords length rows)
    · by_cases inside : store.position < store.records.count
      · obtain ⟨changed, updated⟩ := Records.exists_update fits (.inl inside)
        obtain ⟨-, -, length, rows⟩ := Records.update_eq_ok_iff.mp updated
        have some := List.ne_nil_of_length_pos (Nat.zero_lt_of_lt inside)
        rw [Records.updatedRows, if_neg some] at rows
        rw [updated, (ofStore store).update_inside fits inside]
        exact congrArg Except.ok (ofStore_withRecords length rows)
      · have outside := Nat.le_of_not_lt inside
        rw [Records.update_outside fits outside first,
          (ofStore store).update_outside fits outside first]
        rfl
  · rw [Records.update_wrong_length _ fits, (ofStore store).update_wrong_length fits]
    rfl

theorem IsPlain.changed (h : IsPlain store) {outcome : Except StoreError Records}
    {changed : Store}
    (changes : ∀ records, outcome = .ok records → Records.Changes store.records records)
    (done : outcome.map store.withRecords = .ok changed) : IsPlain changed := by
  obtain ⟨records, applied, rfl⟩ := map_eq_ok_iff.mp done
  exact h.withRecords (changes records applied)

theorem IsPlain.insertHere (h : IsPlain store) {record : Bytes} {changed : Store}
    (done : store.insertHere record = .ok changed) : IsPlain changed :=
  h.changed (fun _ inserted => ⟨_, _, .inl inserted⟩) done

theorem IsPlain.updateHere (h : IsPlain store) {record : Bytes} {changed : Store}
    (done : store.updateHere record = .ok changed) : IsPlain changed :=
  h.changed (fun _ updated => ⟨_, _, .inr updated⟩) done

/-! ## Positioning -/

theorem exists_row_of_indexOfKey? {key : Bytes} {rows : List Bytes} {index : Nat}
    (found : indexOfKey? key rows = some index) : ∃ row, rows[index]? = some row := by
  rw [← findIdx?_isPrefixOf] at found
  obtain ⟨inside, -⟩ := List.findIdx?_eq_some_iff_getElem.mp found
  exact ⟨rows[index], List.getElem?_eq_getElem inside⟩

theorem findLeading_eq (store : Store) (key : Bytes) :
    store.findLeading key = store.moveTo (indexOfKey? key store.records.rows) :=
  congrArg store.moveTo (findIdx?_isPrefixOf key store.records.rows)

/-- Without keys every key number stands for the leading bytes. -/
theorem findEqual_eq (h : IsPlain store) (number : UInt16) (key : Bytes) :
    store.findEqual number key = store.moveTo (indexOfKey? key store.records.rows) := by
  rw [← findLeading_eq, Store.findEqual, Store.lookup?, h.keys_eq]
  rfl

end Model

end RecordFile
