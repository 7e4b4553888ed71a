import RecordFile.Proofs.Store.Opening

/-! # What a run keeps

Whatever is asked of a store, it goes on being the one that was opened: only its records change, and
the record count in its header with them.
-/

namespace RecordFile.Store

/-! ## One operation -/

def Operation.changesRecords : Operation → Bool
  | .insert .. | .insertHere .. | .update .. | .updateHere .. => true
  | _ => false

theorem settle_withRecords (store : Store) {outcome : Except StoreError Records}
    (changes : ∀ records, outcome = .ok records → Records.Changes store.records records) :
    (∃ error, store.settle (outcome.map store.withRecords) = (.error error, store)) ∨
    ∃ records, Records.Changes store.records records ∧
      store.settle (outcome.map store.withRecords) = (.ok none, store.withRecords records) := by
  cases outcome with
  | error error => exact .inl ⟨error, rfl⟩
  | ok records => exact .inr ⟨records, changes records rfl, rfl⟩

theorem settle_insert (store : Store) (index : Nat) (data : Bytes) :
    (∃ error, store.settle (store.insert index data) = (.error error, store)) ∨
    ∃ records, Records.Changes store.records records ∧
      store.settle (store.insert index data) = (.ok none, store.withRecords records) :=
  store.settle_withRecords fun _ inserted => ⟨index, data, .inl inserted⟩

theorem settle_update (store : Store) (index : Nat) (data : Bytes) :
    (∃ error, store.settle (store.update index data) = (.error error, store)) ∨
    ∃ records, Records.Changes store.records records ∧
      store.settle (store.update index data) = (.ok none, store.withRecords records) :=
  store.settle_withRecords fun _ updated => ⟨index, data, .inr updated⟩

theorem moveTo_eq (store : Store) (found? : Option Nat) :
    ∃ cursor, (store.moveTo found?).2 = { store with cursor } := by
  cases found? with
  | none => exact ⟨store.cursor, rfl⟩
  | some index => exact ⟨⟨index⟩, rfl⟩

theorem defineKey_eq_ok {store changed : Store} {number length : UInt16} {data : Bytes}
    (h : store.defineKey number length data = .ok changed) :
    ∃ keys, changed = { store with keys } := by
  unfold defineKey at h
  simp only [bind_eq_ok_iff] at h
  obtain ⟨_, -, keys, -, ⟨⟩⟩ := h
  exact ⟨keys, rfl⟩

/-- A success moves the cursor, defines a key, or changes the records once. -/
theorem apply_cases (store : Store) (operation : Operation) :
    (∃ error, store.apply operation = (.error error, store)) ∨
    (operation.changesRecords = false ∧
      ∃ keys cursor, (store.apply operation).2 = { store with keys, cursor }) ∨
    (operation.changesRecords = true ∧ ∃ records, Records.Changes store.records records ∧
      store.apply operation = (.ok none, store.withRecords records)) := by
  cases operation with
  | insert index data =>
    rcases store.settle_insert index data with failed | changed
    · exact .inl failed
    · exact .inr (.inr ⟨rfl, changed⟩)
  | insertHere data =>
    rcases store.settle_insert store.position data with failed | changed
    · exact .inl failed
    · exact .inr (.inr ⟨rfl, changed⟩)
  | update index data =>
    rcases store.settle_update index data with failed | changed
    · exact .inl failed
    · exact .inr (.inr ⟨rfl, changed⟩)
  | updateHere data =>
    rcases store.settle_update store.position data with failed | changed
    · exact .inl failed
    · exact .inr (.inr ⟨rfl, changed⟩)
  | stepFirst => exact .inr (.inl ⟨rfl, store.keys, _, rfl⟩)
  | stepNext => exact .inr (.inl ⟨rfl, store.keys, _, rfl⟩)
  | findLeading sought =>
    obtain ⟨cursor, moved⟩ := store.moveTo_eq (store.records.findLeading? sought)
    exact .inr (.inl ⟨rfl, store.keys, cursor, moved⟩)
  | findEqual number sought =>
    obtain ⟨cursor, moved⟩ := store.moveTo_eq (store.lookup? number sought)
    exact .inr (.inl ⟨rfl, store.keys, cursor, moved⟩)
  | defineKey number length data =>
    cases defined : store.defineKey number length data with
    | error error => exact .inl ⟨error, congrArg store.settle defined⟩
    | ok changed =>
      obtain ⟨keys, rfl⟩ := defineKey_eq_ok defined
      refine .inr (.inl ⟨rfl, keys, store.cursor, ?_⟩)
      rw [apply, defined]
      rfl

theorem apply_eq_self_of_error {store : Store} {operation : Operation} {error : StoreError}
    (failed : (store.apply operation).1 = .error error) : (store.apply operation).2 = store := by
  have settled : ∀ {outcome : Except StoreError Store},
      (store.settle outcome).1 = .error error → (store.settle outcome).2 = store := by
    intro outcome failed
    cases outcome with
    | error _ => rfl
    | ok _ => cases failed
  cases operation with
  | insert | insertHere | update | updateHere | defineKey => exact settled failed
  | stepFirst | stepNext | findLeading | findEqual => cases failed

theorem run_induction {p : Store → Prop} {store : Store} {operations : List Operation}
    (start : p store)
    (step : ∀ {store operation}, operation ∈ operations → p store → p (store.apply operation).2) :
    p (store.run operations) := by
  induction operations generalizing store with
  | nil => exact start
  | cons operation rest ih =>
    exact ih (step List.mem_cons_self start) fun mem => step (List.mem_cons_of_mem _ mem)

/-! ## Following on -/

/-- Only the record count of the header is not the first store's. -/
structure Follows (first store : Store) : Prop where
  name_eq : store.name = first.name
  recordLength_eq : store.recordLength = first.recordLength
  dataOffset_eq : store.dataOffset = first.dataOffset
  rowLength_eq : store.records.recordLength = first.recordLength.toNat
  count_le : store.records.count ≤ maxRecords
  header_eq : store.header = first.header.set .recordCount (UInt16.ofNat store.records.count)

namespace Follows

variable {first store : Store}

theorem withRecords (h : Follows first store) {records : Records}
    (changes : Records.Changes store.records records) :
    Follows first (store.withRecords records) where
  name_eq := h.name_eq
  recordLength_eq := h.recordLength_eq
  dataOffset_eq := h.dataOffset_eq
  rowLength_eq := changes.recordLength_eq.trans h.rowLength_eq
  count_le := changes.count_le h.count_le
  header_eq := by
    unfold Store.withRecords
    rw [h.header_eq, Header.set_set]

theorem self (h : Follows first store) : Follows store store where
  name_eq := rfl
  recordLength_eq := rfl
  dataOffset_eq := rfl
  rowLength_eq := h.rowLength_eq.trans (congrArg UInt16.toNat h.recordLength_eq.symm)
  count_le := h.count_le
  header_eq := by
    rw [h.header_eq, Header.set_set]

theorem apply (h : Follows first store) (operation : Operation) :
    Follows first (store.apply operation).2 := by
  rcases store.apply_cases operation with ⟨_, failed⟩ | ⟨-, keys, cursor, moved⟩ |
    ⟨-, records, changes, applied⟩
  · rw [failed]
    exact h
  · rw [moved]
    exact ⟨h.name_eq, h.recordLength_eq, h.dataOffset_eq, h.rowLength_eq, h.count_le, h.header_eq⟩
  · rw [applied]
    exact h.withRecords changes

theorem run (h : Follows first store) (operations : List Operation) :
    Follows first (store.run operations) :=
  run_induction h fun _ follows => follows.apply _

theorem count_toNat (h : Follows first store) : store.count.toNat = store.records.count := by
  unfold count
  rw [h.header_eq, Header.toNat_get_set_recordCount _ h.count_le]

theorem length_of_mem (h : Follows first store) {row : Bytes} (mem : row ∈ store.records.rows) :
    row.length = first.recordLength.toNat := by
  rw [store.records.uniform row mem, h.rowLength_eq]

theorem get_header (h : Follows first store) {field : HeaderField} (other : field ≠ .recordCount) :
    store.header.get field = first.header.get field := by
  rw [h.header_eq, Header.get_set_of_ne _ _ other]

end Follows

/-! ## The opened store -/

variable {name : String} {image? : Option Bytes} {recordLength : UInt16} {settings : Settings}
  {store : Store}

theorem follows_of_openFrom (opened : openFrom name image? recordLength settings = .ok store) :
    Follows store store where
  name_eq := rfl
  recordLength_eq := rfl
  dataOffset_eq := rfl
  rowLength_eq := by
    rw [rowLength_of_openFrom opened, (settled_of_openFrom opened).2.2.1]
  count_le := by
    have := (store.header.get .recordCount).toNat_lt
    rw [← count_of_openFrom opened]
    exact Nat.le_of_lt_succ this
  header_eq := by
    rw [← count_of_openFrom opened, UInt16.ofNat_toNat, Header.set_get]

theorem follows_run (opened : openFrom name image? recordLength settings = .ok store)
    (operations : List Operation) : Follows store (store.run operations) :=
  (follows_of_openFrom opened).run operations

/-! ## What the store stands for -/

def openedValue (image? : Option Bytes) (recordLength : UInt16) (field : HeaderField) : UInt16 :=
  match image? with
  | some image => Bytes.word (image.getD field.offset 0) (image.getD (field.offset + 1) 0)
  | none => (Header.new recordLength).get field

/-- The records have the declared length whatever the header says, and the header counts them. -/
structure Represents (name : String) (image? : Option Bytes) (recordLength : UInt16)
    (dataOffset : Nat) (store : Store) : Prop where
  name_eq : store.name = name
  recordLength_eq : store.recordLength = recordLength
  dataOffset_eq : store.dataOffset = dataOffset
  count_eq : store.count.toNat = store.records.count
  count_le : store.records.count ≤ 65535
  uniform : ∀ row ∈ store.records.rows, row.length = recordLength.toNat
  header_isLoaded : store.header.isLoaded = image?.isSome
  fields_kept : ∀ field, field ≠ .recordCount →
    store.header.get field = openedValue image? recordLength field
  image_kept : ∀ image, image? = some image → ∃ bytes, store.header.image? = some bytes ∧
    bytes.length = image.length ∧
    bytes[0x1C]? = some (UInt8.ofNat (store.records.count % 256)) ∧
    bytes[0x1D]? = some (UInt8.ofNat (store.records.count / 256)) ∧
    ∀ k, k ≠ 0x1C → k ≠ 0x1D → bytes[k]? = image[k]?

theorem openedValue_eq (opened : openFrom name image? recordLength settings = .ok store)
    (field : HeaderField) : store.header.get field = openedValue image? recordLength field := by
  cases image? with
  | none => rw [header_of_openFrom_none opened]; rfl
  | some image =>
    obtain ⟨room, header⟩ := header_of_openFrom_some opened
    have inside : field.offset + 2 ≤ image.length := HeaderImage.field_inside ⟨image, room⟩ field
    rw [header]
    apply Bytes.wordAt_eq_of_getElem? inside <;>
    · rw [List.getElem?_eq_getElem (by omega), List.getD_eq_getElem?_getD,
        List.getElem?_eq_getElem (by omega), Option.getD_some]

theorem Follows.image_kept {first store : Store} (h : Follows first store) {image : HeaderImage}
    (loaded : first.header = .loaded image) : ∃ bytes, store.header.image? = some bytes ∧
      bytes.length = image.bytes.length ∧
      bytes[0x1C]? = some (UInt8.ofNat (store.records.count % 256)) ∧
      bytes[0x1D]? = some (UInt8.ofNat (store.records.count / 256)) ∧
      ∀ k, k ≠ 0x1C → k ≠ 0x1D → bytes[k]? = image.bytes[k]? := by
  have inside : 0x1C + 2 ≤ image.bytes.length := image.field_inside .recordCount
  have written := Bytes.getElem?_putWord_ofNat (Nat.lt_succ_of_le h.count_le) inside
  refine ⟨Bytes.putWord image.bytes 0x1C (UInt16.ofNat store.records.count), ?_,
    image.length_set .recordCount _, ?_, ?_, ?_⟩
  · rw [h.header_eq, loaded]
    rfl
  · rw [written, if_pos rfl]
  · rw [written, if_neg (by decide), if_pos rfl]
  · intro k low high
    rw [written, if_neg low, if_neg high]

/-- Whatever is asked of an opened store, it stands for the same file from then on. -/
theorem represents_run (opened : openFrom name image? recordLength settings = .ok store)
    (operations : List Operation) :
    Represents name image? recordLength settings.dataOffset (store.run operations) := by
  obtain ⟨-, rfl, rfl, offset, -, -⟩ := settled_of_openFrom opened
  have follows := follows_run opened operations
  refine {
    name_eq := follows.name_eq
    recordLength_eq := follows.recordLength_eq
    dataOffset_eq := follows.dataOffset_eq.trans offset
    count_eq := follows.count_toNat
    count_le := follows.count_le
    uniform := ?_
    header_isLoaded := ?_
    fields_kept := ?_
    image_kept := ?_ }
  · intro row mem
    rw [(store.run operations).records.uniform row mem, follows.rowLength_eq]
  · rw [follows.header_eq]
    cases image? with
    | none => rw [header_of_openFrom_none opened]; rfl
    | some image =>
      obtain ⟨room, header⟩ := header_of_openFrom_some opened
      rw [header]
      rfl
  · intro field other
    rw [follows.get_header other, openedValue_eq opened]
  · rintro image rfl
    obtain ⟨room, header⟩ := header_of_openFrom_some opened
    exact follows.image_kept header

theorem represents_run_sample :
    let operations := [.insert 1 [67, 68], .insert 9 [0, 0], .updateHere [69, 70], .stepNext,
      .findLeading [67], .defineKey 0 0 [0, 0, 0, 0]]
    openFrom "SAMPLE" (some sampleImage) 2 sampleSettings = .ok sample ∧
      (sample.run operations).records.rows = [[69, 70], [67, 68]] ∧
      Represents "SAMPLE" (some sampleImage) 2 0x1E (sample.run operations) := by
  intro operations
  exact ⟨openFrom_sample, rfl, represents_run openFrom_sample operations⟩

end RecordFile.Store
