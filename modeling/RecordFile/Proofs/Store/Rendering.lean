import RecordFile.Proofs.Addresses
import RecordFile.Proofs.Store.Reload

/-! # When an export can be rendered

The end of the last row must be an address. Loading makes sure of that, but the rows that are put
into a store later are not asked.
-/

namespace RecordFile

/-! ## Rendering in steps -/

def Header.startingImage? (header : Header) (size : Nat) : Option Bytes :=
  match header with
  | loaded image => some image.bytes
  | bare fields => fields.writeTo? (List.replicate size 0)

theorem Header.startingImage?_eq (header : Header) {size : Nat} (large : minHeaderSize ≤ size) :
    header.startingImage? size = some (header.startingImage size) := by
  cases header with
  | loaded image => rfl
  | bare fields => exact if_pos (by simpa using large)

namespace Store

/-- Every address is checked and every row written by itself. -/
def imageInSteps? (store : Store) : Option Bytes := do
  let recordsEnd ←
    Address.rowsEnd? store.dataOffset store.recordLength.toNat store.records.count
  let start ← store.header.startingImage? store.dataOffset
  Bytes.writeRows? store.dataOffset store.recordLength.toNat 0 store.records.rows
    (start.padTo recordsEnd)

variable {first store : Store}

theorem Follows.imageInSteps?_eq (h : Follows first store)
    (high : minHeaderSize ≤ store.dataOffset) :
    store.imageInSteps? = if store.recordsEnd < addressLimit then some store.image else none := by
  have reckoned :
      Address.rowsEnd? store.dataOffset store.recordLength.toNat store.records.count =
        if store.recordsEnd < addressLimit then some store.recordsEnd else none :=
    Address.rowsEnd?_eq _ _ _
  unfold imageInSteps?
  rw [reckoned]
  by_cases inside : store.recordsEnd < addressLimit
  · rw [if_pos inside, if_pos inside, store.header.startingImage?_eq high]
    simp only [Option.bind_eq_bind, Option.bind_some]
    have uniform : ∀ row ∈ store.records.rows, row.length = store.recordLength.toNat := by
      intro row mem
      rw [h.recordLength_eq]
      exact h.length_of_mem mem
    rw [Bytes.writeRows?_eq inside _ uniform]
    · rfl
    · rw [Bytes.length_padTo]
      exact Nat.le_max_right _ _
  · rw [if_neg inside, if_neg inside]
    rfl

/-! ## Filling a store -/

theorem apply_insert {changed : Records} {index : Nat} {data : Bytes}
    (inserted : store.records.insert index data = .ok changed) :
    store.apply (.insert index data) = (.ok none, store.withRecords changed) := by
  rw [apply, insert, inserted]
  rfl

theorem Follows.count_run_insert (h : Follows first store) {n : Nat}
    (room : store.records.count + n ≤ maxRecords) :
    let blank := List.replicate first.recordLength.toNat (0 : UInt8)
    (store.run (List.replicate n (.insert 0 blank))).records.count = store.records.count + n := by
  intro blank
  induction n generalizing store with
  | zero => rfl
  | succ n ih =>
    have fits : blank.length = store.records.recordLength := by
      rw [List.length_replicate, h.rowLength_eq]
    obtain ⟨changed, inserted⟩ :=
      Records.exists_insert fits (Nat.zero_le _) (show store.records.count < maxRecords by omega)
    obtain ⟨-, -, -, -, rows⟩ := Records.insert_eq_ok_iff.mp inserted
    have one : changed.count = store.records.count + 1 := by
      rw [Records.count, rows, List.length_insertIdx, if_pos (Nat.zero_le _)]
      rfl
    have follows : Follows first (store.withRecords changed) :=
      h.withRecords ⟨0, blank, .inl inserted⟩
    have later : ((store.withRecords changed).run (List.replicate n (.insert 0 blank))).records.count
        = changed.count + n :=
      ih follows (show changed.count + n ≤ maxRecords by omega)
    rw [List.replicate_succ, Store.run, List.foldl_cons, apply_insert inserted]
    exact later.trans (by omega)

/-! ## Opened stores -/

variable {name : String} {image? : Option Bytes} {recordLength : UInt16} {settings : Settings}

theorem dataOffset_run (opened : openFrom name image? recordLength settings = .ok store)
    (operations : List Operation) : minHeaderSize ≤ (store.run operations).dataOffset := by
  obtain ⟨high, -, -, offset, -, -⟩ := settled_of_openFrom opened
  rw [(follows_run opened operations).dataOffset_eq, offset]
  exact high

theorem recordsEnd_run (opened : openFrom name image? recordLength settings = .ok store)
    (operations : List Operation) :
    (store.run operations).recordsEnd =
      settings.dataOffset + recordLength.toNat * (store.run operations).records.count := by
  obtain ⟨-, -, length, offset, -, -⟩ := settled_of_openFrom opened
  have follows := follows_run opened operations
  rw [recordsEnd, follows.dataOffset_eq, follows.recordLength_eq, offset, length]

theorem imageInSteps?_eq (opened : openFrom name image? recordLength settings = .ok store)
    (operations : List Operation) :
    (store.run operations).imageInSteps? =
      if settings.dataOffset + recordLength.toNat * (store.run operations).records.count <
          addressLimit then
        some (store.run operations).image
      else none := by
  rw [(follows_run opened operations).imageInSteps?_eq (dataOffset_run opened operations),
    recordsEnd_run opened]

theorem image?_run (opened : openFrom name image? recordLength settings = .ok store)
    (operations : List Operation) :
    (store.run operations).image? =
      if (store.run operations).recordsEnd ≤ maxBlockSize then
        (store.run operations).imageInSteps?
      else none := by
  have rendered :=
    (follows_run opened operations).imageInSteps?_eq (dataOffset_run opened operations)
  unfold Store.image?
  by_cases held : (store.run operations).recordsEnd ≤ maxBlockSize
  · have inside : (store.run operations).recordsEnd < addressLimit :=
      Nat.lt_of_le_of_lt held (by decide)
    rw [if_pos held, if_pos held, rendered, if_pos inside]
  · rw [if_neg held, if_neg held]

theorem imageInSteps?_of_openFrom (opened : openFrom name image? recordLength settings = .ok store)
    (address : settings.dataOffset < addressLimit) : store.imageInSteps? = some store.image := by
  refine (imageInSteps?_eq opened []).trans (if_pos ?_)
  change settings.dataOffset + recordLength.toNat * store.records.count < addressLimit
  cases image? with
  | none =>
    obtain ⟨-, rfl⟩ := new_eq_ok_iff.mp opened
    exact address
  | some image =>
    have reachable := (recordsEnd_of_openFrom_some opened).1
    rwa [show store.recordsEnd = _ from recordsEnd_run opened []] at reachable

/-- A store can be exported while the end of its records is an address. -/
theorem imageInSteps?_run (opened : openFrom name image? recordLength settings = .ok store)
    (address : settings.dataOffset < addressLimit) :
    store.imageInSteps? = some store.image ∧
    (∀ operations, (store.run operations).imageInSteps? =
      if settings.dataOffset + recordLength.toNat * (store.run operations).records.count <
          addressLimit then
        some (store.run operations).image
      else none) ∧
    (∀ operations, (store.run operations).image? =
      if (store.run operations).recordsEnd ≤ maxBlockSize then
        (store.run operations).imageInSteps?
      else none) ∧
    ((∀ operations, (store.run operations).imageInSteps? = some (store.run operations).image) ↔
      settings.dataOffset + recordLength.toNat * 65535 < addressLimit) := by
  refine ⟨imageInSteps?_of_openFrom opened address, imageInSteps?_eq opened,
    image?_run opened, ?_⟩
  have follows := follows_of_openFrom opened
  obtain ⟨-, -, length, -, -, -⟩ := settled_of_openFrom opened
  constructor
  · intro all
    -- The store is filled up, and the last record has to end at an address.
    let blank := List.replicate store.recordLength.toNat (0 : UInt8)
    let fill := List.replicate (65535 - store.records.count) (Operation.insert 0 blank)
    have few := follows.count_le
    have full : (store.run fill).records.count = 65535 := by
      unfold maxRecords at few
      refine (follows.count_run_insert ?_).trans ?_
      · unfold maxRecords
        omega
      · omega
    have rendered := (imageInSteps?_eq opened fill).symm.trans (all fill)
    rw [full] at rendered
    by_cases inside : settings.dataOffset + recordLength.toNat * 65535 < addressLimit
    · exact inside
    · rw [if_neg inside] at rendered
      cases rendered
  · intro room operations
    have few : (store.run operations).records.count ≤ 65535 :=
      (follows_run opened operations).count_le
    have bound := Nat.mul_le_mul_left recordLength.toNat few
    rw [imageInSteps?_eq opened, if_pos (by omega)]

theorem imageInSteps?_run_sample :
    sample.imageInSteps? = some sample.image ∧
      ∀ operations, (sample.run operations).imageInSteps? = some (sample.run operations).image := by
  have rendered := imageInSteps?_run openFrom_sample (by decide)
  exact ⟨rendered.1, rendered.2.2.2.mpr (by decide)⟩

/-- One byte at the last address, and the store cannot be exported any more. -/
theorem imageInSteps?_run_overflow :
    let last : Settings := { dataOffset := addressLimit - 1 }
    ∃ store, openFrom "EDGE" none 1 last = .ok store ∧
      let grown := store.run [.insert 0 [65]]
      grown.records.rows = [[65]] ∧ grown.recordsEnd = addressLimit ∧
        grown.imageInSteps? = none := by
  intro last
  refine ⟨_, rfl, rfl, rfl, ?_⟩
  rfl

end Store

end RecordFile
