import RecordFile.Proofs.Model.Stores
import RecordFile.Proofs.Store.Cursors
import RecordFile.Proofs.Store.Lookups

/-! # How lookups move

When a row is put in or replaced, what a search found before tells what it finds afterwards. The
cursor is not moved.
-/

namespace RecordFile

/-! ## First rows after a change -/

/-- The first index of a wanted row after a row was put in. -/
def firstAfterInsert (before : Option Nat) (index : Nat) (wanted : Prop) [Decidable wanted] :
    Option Nat :=
  match before with
  | some first =>
    if first < index then some first else if wanted then some index else some (first + 1)
  | none => if wanted then some index else none

/-- The first index after a row was replaced. The next one is the first behind it. -/
def firstAfterUpdate (before : Option Nat) (index : Nat) (wanted : Prop) [Decidable wanted]
    (next : Option Nat) : Option Nat :=
  match before with
  | some first =>
    if first < index then some first else if wanted then some index
    else if index < first then some first else next
  | none => if wanted then some index else none

section Rows

variable {rows : List Bytes} {index : Nat} (row : Bytes) (test : Bytes → Bool)

theorem findIdx?_insertIdx (inside : index ≤ rows.length) :
    (rows.insertIdx index row).findIdx? test =
      firstAfterInsert (rows.findIdx? test) index (test row = true) := by
  have whole : rows.findIdx? test = _ :=
    congrArg (·.findIdx? test) (List.take_append_drop index rows).symm
  rw [insertIdx_eq_take_append row inside, whole, List.findIdx?_append, List.findIdx?_append,
    List.findIdx?_cons, List.length_take, Nat.min_eq_left inside]
  cases front : (rows.take index).findIdx? test with
  | some first =>
    obtain ⟨less, -⟩ := List.findIdx?_eq_some_iff_getElem.mp front
    rw [List.length_take] at less
    simp [firstAfterInsert]
    omega
  | none =>
    cases (rows.drop index).findIdx? test with
    | none => by_cases wanted : test row = true <;> simp [firstAfterInsert, wanted]
    | some later =>
      have behind : ¬later + index < index := by omega
      by_cases wanted : test row = true
      · simp [firstAfterInsert, wanted, behind]
      · simp [firstAfterInsert, wanted, behind]
        omega

theorem findIdx?_set (inside : index < rows.length) :
    (rows.set index row).findIdx? test =
      firstAfterUpdate (rows.findIdx? test) index (test row = true)
        (((rows.drop (index + 1)).findIdx? test).map (· + (index + 1))) := by
  have split : rows = rows.take index ++ rows[index] :: rows.drop (index + 1) := by
    rw [← List.drop_eq_getElem_cons inside, List.take_append_drop]
  have whole : rows.findIdx? test = _ := congrArg (·.findIdx? test) split
  rw [List.set_eq_take_append_cons_drop, if_pos inside, whole, List.findIdx?_append,
    List.findIdx?_append, List.findIdx?_cons, List.findIdx?_cons, List.length_take,
    Nat.min_eq_left (Nat.le_of_lt inside)]
  cases front : (rows.take index).findIdx? test with
  | some first =>
    obtain ⟨less, -⟩ := List.findIdx?_eq_some_iff_getElem.mp front
    rw [List.length_take] at less
    simp [firstAfterUpdate]
    omega
  | none =>
    -- The row that was here may have been found before, and one behind it may be found now.
    cases (rows.drop (index + 1)).findIdx? test with
    | none =>
      by_cases wanted : test row = true <;> by_cases old : test rows[index] = true <;>
        simp [firstAfterUpdate, wanted, old]
    | some later =>
      have behind : ¬later + 1 + index < index := by omega
      by_cases wanted : test row = true
      · by_cases old : test rows[index] = true <;> simp [firstAfterUpdate, wanted, old, behind]
      · by_cases old : test rows[index] = true
        · simp [firstAfterUpdate, wanted, old]
          omega
        · have later : index < later + 1 + index := by omega
          simp [firstAfterUpdate, wanted, old, behind, later]

end Rows

/-! ## Searches -/

inductive Search
  | leading (sought : Bytes)
  | keyed (number : UInt16) (sought : Bytes)
  deriving DecidableEq, Repr

namespace Store

variable {store changed : Store} {search : Search} {index : Nat} {data row : Bytes}

def seek (store : Store) : Search → Status × Store
  | .leading sought => store.findLeading sought
  | .keyed number sought => store.findEqual number sought

def found? (store : Store) (search : Search) : Option Nat :=
  match store.seek search with
  | (.found, moved) => some moved.position
  | (.notFound, _) => none

def Wants (store : Store) : Search → Bytes → Prop
  | .leading sought, row => sought <+: row
  | .keyed number sought, row => store.Answers number sought row

instance (store : Store) (number : UInt16) (sought row : Bytes) :
    Decidable (store.Answers number sought row) :=
  match defined : store.keys.get? number with
  | some _ => decidable_of_iff _ (answers_of_key defined).symm
  | none => decidable_of_iff _ (answers_without_key defined).symm

instance (store : Store) : (search : Search) → (row : Bytes) → Decidable (store.Wants search row)
  | .leading sought, row => inferInstanceAs (Decidable (sought <+: row))
  | .keyed number sought, row => inferInstanceAs (Decidable (store.Answers number sought row))

theorem found?_eq (store : Store) (search : Search) :
    store.found? search = store.records.rows.findIdx? (store.Wants search ·) := by
  have moved : ∀ leads : Option Nat, (match store.moveTo leads with
      | (.found, moved) => some moved.position
      | (.notFound, _) => none) = leads := by
    intro leads
    cases leads <;> rfl
  cases search with
  | leading sought =>
    rw [found?, seek, findLeading, moved, Records.findLeading?]
    congr 1
    funext row
    rw [Bool.eq_iff_iff, List.isPrefixOf_iff_prefix, decide_eq_true_iff, Wants]
  | keyed number sought =>
    obtain ⟨test, tests, leads⟩ := store.lookup?_eq number sought
    rw [found?, seek, findEqual, moved, leads]
    congr 1
    funext row
    rw [Bool.eq_iff_iff, tests, decide_eq_true_iff, Wants]

def nextFound? (store : Store) (search : Search) (index : Nat) : Option Nat :=
  ((store.records.rows.drop (index + 1)).findIdx? (store.Wants search ·)).map (· + (index + 1))

theorem nextFound?_eq_some_iff {next : Nat} : store.nextFound? search index = some next ↔
    index < next ∧ (∃ row, store.records.rows[next]? = some row ∧ store.Wants search row) ∧
      ∀ i row, index < i → i < next → store.records.rows[i]? = some row →
        ¬store.Wants search row := by
  have first : ∀ later, (store.records.rows.drop (index + 1)).findIdx? (store.Wants search ·) =
      some later ↔ IsFirst (store.Wants search) (store.records.rows.drop (index + 1)) later :=
    fun later => findIdx?_eq_some_iff_isFirst fun row => decide_eq_true_iff
  unfold nextFound?
  rw [Option.map_eq_some_iff]
  simp only [first]
  constructor
  · rintro ⟨later, ⟨⟨row, here, wanted⟩, before⟩, rfl⟩
    rw [List.getElem?_drop, Nat.add_comm] at here
    refine ⟨by omega, ⟨row, here, wanted⟩, ?_⟩
    intro i row behind less there
    refine before (i - (index + 1)) row (by omega) ?_
    rw [List.getElem?_drop, Nat.add_sub_cancel' behind, there]
  · rintro ⟨behind, ⟨row, here, wanted⟩, before⟩
    refine ⟨next - (index + 1), ⟨⟨row, ?_, wanted⟩, ?_⟩, by omega⟩
    · rw [List.getElem?_drop, Nat.add_sub_cancel' behind, here]
    · intro i row less there
      rw [List.getElem?_drop] at there
      exact before (index + 1 + i) row (by omega) (by omega) there

/-! ## Changes -/

theorem wants_withRecords {records : Records} :
    (store.withRecords records).Wants search row ↔ store.Wants search row := by
  cases search <;> rfl

theorem found?_withRecords (store : Store) (records : Records) (search : Search) :
    (store.withRecords records).found? search = records.rows.findIdx? (store.Wants search ·) := by
  rw [found?_eq]
  simp only [wants_withRecords]
  rfl

theorem found?_of_insert (inserted : store.insert index data = .ok changed) (search : Search) :
    changed.found? search =
      firstAfterInsert (store.found? search) index (store.Wants search data) := by
  obtain ⟨records, done, rfl⟩ := map_eq_ok_iff.mp inserted
  obtain ⟨-, inside, -, -, rows⟩ := Records.insert_eq_ok_iff.mp done
  rw [found?_withRecords, found?_eq, rows, findIdx?_insertIdx data _ inside]
  simp only [decide_eq_true_eq]

theorem found?_of_update (updated : store.update index data = .ok changed)
    (inside : index < store.records.count) (search : Search) :
    changed.found? search = firstAfterUpdate (store.found? search) index (store.Wants search data)
      (store.nextFound? search index) := by
  obtain ⟨records, done, rfl⟩ := map_eq_ok_iff.mp updated
  obtain ⟨-, -, -, rows⟩ := Records.update_eq_ok_iff.mp done
  have some := List.ne_nil_of_length_pos (Nat.zero_lt_of_lt inside)
  rw [Records.updatedRows, if_neg some] at rows
  rw [found?_withRecords, found?_eq, nextFound?, rows, findIdx?_set data _ inside]
  simp only [decide_eq_true_eq]

/-- What a search finds after a change is told by what it found before. -/
theorem found?_of_change (store : Store) (search : Search) (index : Nat) (data : Bytes) :
    (∀ changed, store.insert index data = .ok changed →
      changed.found? search =
        firstAfterInsert (store.found? search) index (store.Wants search data) ∧
      changed.cursor = store.cursor ∧
      (store.position = index → changed.current = .ok data) ∧
      (index < store.position → ∀ record,
        changed.current = .ok record ↔ store.get (store.position - 1) = .ok record)) ∧
    (∀ changed, store.update index data = .ok changed → index < store.records.count →
      changed.found? search = firstAfterUpdate (store.found? search) index
        (store.Wants search data) (store.nextFound? search index) ∧
      changed.cursor = store.cursor) ∧
    ∀ next, store.nextFound? search index = some next ↔
      index < next ∧ (∃ row, store.records.rows[next]? = some row ∧ store.Wants search row) ∧
        ∀ i row, index < i → i < next → store.records.rows[i]? = some row →
          ¬store.Wants search row := by
  refine ⟨?_, ?_, fun next => nextFound?_eq_some_iff⟩
  · intro changed inserted
    refine ⟨found?_of_insert inserted search, ?_⟩
    obtain ⟨records, done, rfl⟩ := map_eq_ok_iff.mp inserted
    obtain ⟨-, inside, -, -, rows⟩ := Records.insert_eq_ok_iff.mp done
    have current : ∀ record, (store.withRecords records).current = .ok record ↔
        (store.records.rows.insertIdx index data)[store.position]? = some record := by
      intro record
      rw [current_eq_ok_iff, ← rows]
      rfl
    refine ⟨rfl, ?_, ?_⟩
    · intro here
      have room : index ≤ store.records.rows.length := inside
      rw [current, here, List.getElem?_insertIdx_self, if_pos room]
    · intro behind record
      rw [current, List.getElem?_insertIdx_of_gt behind, get, Records.get_eq_ok_iff]
  · intro changed updated inside
    refine ⟨found?_of_update updated inside search, ?_⟩
    obtain ⟨records, done, rfl⟩ := map_eq_ok_iff.mp updated
    rfl

theorem found?_of_change_sample :
    let store := sample.run [.insert 1 [65, 67], .stepNext]
    let search := Search.leading [65]
    ∃ inserted updated, store.insert 1 [68, 69] = .ok inserted ∧
      store.update 0 [70, 71] = .ok updated ∧ store.found? search = some 0 ∧
      inserted.found? search = some 0 ∧ inserted.current = .ok [68, 69] ∧
      0 < store.records.count ∧ updated.found? search = some 1 := by
  intro store search
  have inserted : store.insert 1 [68, 69] =
      .ok (store.withRecords ⟨2, [[65, 66], [68, 69], [65, 67]], by decide⟩) := rfl
  have updated : store.update 0 [70, 71] =
      .ok (store.withRecords ⟨2, [[70, 71], [65, 67]], by decide⟩) := rfl
  obtain ⟨found, -, current, -⟩ := (found?_of_change store search 1 [68, 69]).1 _ inserted
  obtain ⟨moved, -⟩ := (found?_of_change store search 0 [70, 71]).2.1 _ updated (by decide)
  exact ⟨_, _, inserted, updated, rfl, found.trans (by decide), current rfl, by decide,
    moved.trans (by decide)⟩

end Store

end RecordFile
