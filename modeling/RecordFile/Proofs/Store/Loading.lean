import RecordFile.Proofs.Addresses
import RecordFile.Proofs.Store.Opening

/-! # Which images open

The record area has to begin behind the header, and all the records that the header counts have to
lie inside the image.
-/

namespace RecordFile

/-! ## Loading in steps -/

/-- Every row is cut out by itself. None is what must not be. -/
def Records.loadInSteps? (image : Bytes) (dataOffset recordLength count : Nat) :
    Option (Except StoreError (List Bytes)) :=
  match Address.rowsEnd? dataOffset recordLength count with
  | none => some (.error (.format .recordAreaOverflow))
  | some needed =>
    if 0 < count ∧ image.length < needed then
      some (.error (.format (.shortRecordArea count recordLength needed image.length)))
    else (image.readRows? dataOffset recordLength 0 count).map .ok

theorem Records.loadInSteps?_eq {image : Bytes} (small : image.length < addressLimit)
    (dataOffset recordLength count : Nat) :
    loadInSteps? image dataOffset recordLength count =
      some ((load image dataOffset recordLength count).map (·.rows)) := by
  unfold loadInSteps? load
  rw [Address.rowsEnd?_eq]
  by_cases past : addressLimit ≤ dataOffset + recordLength * count
  · simp only [past, Nat.not_lt_of_le past, if_true, if_false]
    rfl
  · simp only [past, Nat.lt_of_not_le past, if_true, if_false]
    split
    · rfl
    · next long =>
      have read : image.readRows? dataOffset recordLength 0 count = _ :=
        Bytes.readRows?_eq small (by rw [Nat.mul_zero, Nat.add_zero]; omega)
      rw [read, Nat.mul_zero, Nat.add_zero]
      rfl

theorem Records.load_eq_error {image : Bytes} {dataOffset recordLength count : Nat}
    {error : StoreError} (failed : load image dataOffset recordLength count = .error error) :
    error = .format (if addressLimit ≤ dataOffset + recordLength * count then .recordAreaOverflow
      else .shortRecordArea count recordLength (dataOffset + recordLength * count)
        image.length) := by
  unfold load at failed
  by_cases past : addressLimit ≤ dataOffset + recordLength * count
  · simp only [past, if_true] at failed ⊢
    cases failed
    rfl
  · simp only [past, if_false] at failed ⊢
    split at failed
    · cases failed
      rfl
    · cases failed

namespace Store

/-! ## What the header says -/

def statedCount (image : Bytes) : Nat := (image.getD 0x1C 0).toNat + 256 * (image.getD 0x1D 0).toNat

theorem toNat_get_recordCount (image : HeaderImage) :
    (image.get .recordCount).toNat = statedCount image.bytes := by
  have inside := image.room
  unfold minHeaderSize at inside
  have low : image.bytes[0x1C]? = some (image.bytes.getD 0x1C 0) := by
    rw [List.getD_eq_getElem?_getD, List.getElem?_eq_getElem (by omega), Option.getD_some]
  have high : image.bytes[0x1D]? = some (image.bytes.getD 0x1D 0) := by
    rw [List.getD_eq_getElem?_getD, List.getElem?_eq_getElem (by omega), Option.getD_some]
  have read : image.get .recordCount = Bytes.word _ _ :=
    Bytes.wordAt_eq_of_getElem? (image.field_inside .recordCount) low high
  have lowBound := (image.bytes.getD 0x1C 0).toNat_lt
  have highBound := (image.bytes.getD 0x1D 0).toNat_lt
  rw [read, Bytes.word, UInt16.toNat_ofNat', statedCount]
  omega

/-- The first thing that is wrong with an image that does not open. -/
def firstFault (image : Bytes) (dataOffset recordLength : Nat) : FormatFault :=
  let needed := dataOffset + recordLength * statedCount image
  if dataOffset < minHeaderSize then .recordAreaInHeader dataOffset
  else if image.length < minHeaderSize then .shortHeader image.length
  else if addressLimit ≤ needed then .recordAreaOverflow
  else .shortRecordArea (statedCount image) recordLength needed image.length

/-! ## Outcomes -/

variable {name : String} {image : Bytes} {recordLength : UInt16} {settings : Settings}
  {store : Store}

theorem ofImage_low (low : settings.dataOffset < minHeaderSize) :
    ofImage name image recordLength settings =
      .error (.format (.recordAreaInHeader settings.dataOffset)) := by
  unfold ofImage dataOffsetOf
  rw [if_pos low]
  rfl

theorem ofImage_short (high : minHeaderSize ≤ settings.dataOffset)
    (short : image.length < minHeaderSize) :
    ofImage name image recordLength settings = .error (.format (.shortHeader image.length)) := by
  unfold ofImage dataOffsetOf HeaderImage.ofBytes
  rw [if_neg (Nat.not_lt_of_le high), dif_neg (Nat.not_le_of_lt short)]
  rfl

theorem ofImage_room (high : minHeaderSize ≤ settings.dataOffset)
    (room : minHeaderSize ≤ image.length) :
    ofImage name image recordLength settings =
      (Records.load image settings.dataOffset recordLength.toNat (statedCount image)).map
        fun records => {
          name, recordLength, records
          dataOffset := settings.dataOffset
          header := .loaded ⟨image, room⟩
          keys := .empty
          cursor := {} } := by
  have stated : statedCount image = (HeaderImage.get ⟨image, room⟩ .recordCount).toNat :=
    (toNat_get_recordCount ⟨image, room⟩).symm
  unfold ofImage dataOffsetOf HeaderImage.ofBytes
  rw [if_neg (Nat.not_lt_of_le high), dif_pos room, stated]
  change Except.bind (Records.load image settings.dataOffset recordLength.toNat
    (HeaderImage.get ⟨image, room⟩ .recordCount).toNat) _ = _
  generalize Records.load image settings.dataOffset recordLength.toNat _ = loaded
  cases loaded <;> rfl

theorem ofImage_eq_error {error : StoreError}
    (failed : ofImage name image recordLength settings = .error error) :
    error = .format (firstFault image settings.dataOffset recordLength.toNat) := by
  -- The faults are told in the order in which the checks are made.
  unfold firstFault
  by_cases high : minHeaderSize ≤ settings.dataOffset
  · by_cases room : minHeaderSize ≤ image.length
    · rw [ofImage_room high room] at failed
      cases loaded : Records.load image settings.dataOffset recordLength.toNat
          (statedCount image) with
      | error fault =>
        rw [loaded] at failed
        cases failed
        simp only [Nat.not_lt_of_le high, Nat.not_lt_of_le room, if_false]
        exact Records.load_eq_error loaded
      | ok records =>
        rw [loaded] at failed
        cases failed
    · have short := Nat.lt_of_not_le room
      rw [ofImage_short high short] at failed
      cases failed
      simp only [Nat.not_lt_of_le high, short, if_true, if_false]
  · have low := Nat.lt_of_not_le high
    rw [ofImage_low low] at failed
    cases failed
    simp only [low, if_true]

theorem exists_ofImage_iff (address : settings.dataOffset < addressLimit)
    (small : image.length < addressLimit) :
    (∃ store, ofImage name image recordLength settings = .ok store) ↔
      minHeaderSize ≤ settings.dataOffset ∧ minHeaderSize ≤ image.length ∧
        (statedCount image = 0 ∨
          settings.dataOffset + statedCount image * recordLength.toNat ≤ image.length) := by
  rw [Nat.mul_comm]
  constructor
  · rintro ⟨store, opened⟩
    obtain ⟨high, room, records, loaded, -⟩ := ofImage_eq_ok_iff.mp opened
    rw [toNat_get_recordCount] at loaded
    obtain ⟨-, long, -, -⟩ := Records.load_eq_ok_iff.mp loaded
    exact ⟨high, room, (Nat.eq_zero_or_pos _).imp_right long⟩
  · rintro ⟨high, room, inside⟩
    have reachable : settings.dataOffset + recordLength.toNat * statedCount image < addressLimit := by
      rcases inside with none | inside
      · rw [none]
        exact address
      · omega
    rw [ofImage_room high room, Records.load, if_neg (Nat.not_le_of_lt reachable),
      dif_neg (by omega)]
    exact ⟨_, rfl⟩

theorem loaded_of_ofImage (small : image.length < addressLimit)
    (opened : ofImage name image recordLength settings = .ok store) :
    store.records.rows.length = statedCount image ∧
      (∀ i < statedCount image, store.records.rows[i]? =
        image.slice? (settings.dataOffset + i * recordLength.toNat) recordLength.toNat) ∧
      image.readRows? settings.dataOffset recordLength.toNat 0 (statedCount image) =
        some store.records.rows := by
  obtain ⟨-, room, records, loaded, rfl⟩ := ofImage_eq_ok_iff.mp opened
  rw [toNat_get_recordCount] at loaded
  obtain ⟨-, long, -, rows⟩ := Records.load_eq_ok_iff.mp loaded
  dsimp only at long rows ⊢
  rw [rows]
  refine ⟨Bytes.length_pieces _ _ _, ?_, ?_⟩
  · intro i counted
    have whole := long (Nat.zero_lt_of_lt counted)
    rw [← Bytes.slice?_drop (by omega)]
    exact Bytes.getElem?_pieces (by rw [List.length_drop]; omega) counted
  · rw [Bytes.readRows?_eq small (by rw [Nat.mul_zero, Nat.add_zero]; exact long), Nat.mul_zero,
      Nat.add_zero]

/-- An image opens exactly when its record area and all records counted lie inside. -/
theorem ofImage_outcome (name : String) (image : Bytes) (recordLength : UInt16)
    (settings : Settings) (address : settings.dataOffset < addressLimit)
    (small : image.length < addressLimit) :
    let outcome := ofImage name image recordLength settings
    let dataOffset := settings.dataOffset
    let length := recordLength.toNat
    let count := statedCount image
    ((∃ store, outcome = .ok store) ↔
      0x1E ≤ dataOffset ∧ 0x1E ≤ image.length ∧
        (count = 0 ∨ dataOffset + count * length ≤ image.length)) ∧
    (∀ store, outcome = .ok store →
      store.records.rows.length = count ∧
      (∀ i < count, store.records.rows[i]? = image.slice? (dataOffset + i * length) length) ∧
      store.position = 0 ∧ store.keys = .empty ∧
      image.readRows? dataOffset length 0 count = some store.records.rows) ∧
    ((¬∃ store, outcome = .ok store) →
      outcome = .error (.format (firstFault image dataOffset length))) ∧
    Records.loadInSteps? image dataOffset length count =
      some ((Records.load image dataOffset length count).map (·.rows)) := by
  intro outcome dataOffset length count
  refine ⟨exists_ofImage_iff address small, ?_, ?_, Records.loadInSteps?_eq small _ _ _⟩
  · intro store opened
    obtain ⟨rows, each, read⟩ := loaded_of_ofImage small opened
    have began : openFrom name (some image) recordLength settings = .ok store := opened
    obtain ⟨-, -, -, -, keys, cursor⟩ := settled_of_openFrom began
    exact ⟨rows, each, congrArg Cursor.position cursor, keys, read⟩
  · intro refused
    cases ended : outcome with
    | ok store => exact absurd ⟨store, ended⟩ refused
    | error error => rw [ofImage_eq_error ended]

/-- Without any record it does not matter where records would begin. -/
theorem ofImage_outcome_sample :
    let last : Settings := { dataOffset := addressLimit - 1 }
    let bare : Bytes := List.replicate 0x1E 0
    (∃ store, ofImage "SAMPLE" sampleImage 2 sampleSettings = .ok store) ∧
      ofImage "SAMPLE" sampleImage 4 sampleSettings =
        .error (.format (.shortRecordArea 1 4 34 33)) ∧
      (∃ store, ofImage "BARE" bare 9 last = .ok store) ∧
      ofImage "SAMPLE" sampleImage 2 last = .error (.format .recordAreaOverflow) ∧
      ofImage "BARE" (bare.drop 1) 9 last = .error (.format (.shortHeader 29)) := by
  intro last bare
  have near : sampleSettings.dataOffset < addressLimit := by decide
  have far : last.dataOffset < addressLimit := by decide
  have small : sampleImage.length < addressLimit := by decide
  have smallBare : bare.length < addressLimit := by decide
  have smaller : (bare.drop 1).length < addressLimit := by decide
  have two := ofImage_outcome "SAMPLE" sampleImage 2 sampleSettings near small
  have four := ofImage_outcome "SAMPLE" sampleImage 4 sampleSettings near small
  have empty := ofImage_outcome "BARE" bare 9 last far smallBare
  have beyond := ofImage_outcome "SAMPLE" sampleImage 2 last far small
  have short := ofImage_outcome "BARE" (bare.drop 1) 9 last far smaller
  refine ⟨two.1.mpr (by decide), four.2.2.1 ?_, empty.1.mpr (by decide), beyond.2.2.1 ?_,
    short.2.2.1 ?_⟩
  · rw [four.1]
    decide
  · rw [beyond.1]
    decide
  · rw [short.1]
    decide

end Store

end RecordFile
