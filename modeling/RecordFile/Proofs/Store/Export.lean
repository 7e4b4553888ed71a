import RecordFile.Proofs.Store.Runs

/-! # The exported image, byte by byte

An export is what the store was opened on, with the record count and the records written into it.
-/

namespace RecordFile.Store

/-! ## The rule -/

/-- What an export shows of the first image and of the rows. -/
structure IsExport (start : Bytes) (dataOffset recordLength : Nat) (rows : List Bytes)
    (image : Bytes) : Prop where
  length_eq : image.length = max start.length (dataOffset + recordLength * rows.length)
  getElem?_eq : ∀ k, image[k]? =
    if k = 0x1C then some (UInt8.ofNat (rows.length % 256))
    else if k = 0x1D then some (UInt8.ofNat (rows.length / 256))
    else if dataOffset ≤ k ∧ k < dataOffset + recordLength * rows.length then
      rows.flatten[k - dataOffset]?
    else if k < start.length then start[k]?
    else if k < dataOffset + recordLength * rows.length then some 0
    else none

theorem IsExport.unique {start image other : Bytes} {dataOffset recordLength : Nat}
    {rows : List Bytes} (h : IsExport start dataOffset recordLength rows image)
    (h' : IsExport start dataOffset recordLength rows other) : image = other := by
  apply List.ext_getElem?
  intro k
  rw [h.getElem?_eq, h'.getElem?_eq]

def writeRows (start : Bytes) (dataOffset recordLength : Nat) (rows : List Bytes) : Bytes :=
  let counted := Bytes.putWord start 0x1C (UInt16.ofNat rows.length)
  (counted.padTo (dataOffset + recordLength * rows.length)).overlay dataOffset rows.flatten

theorem isExport_writeRows {start : Bytes} {dataOffset recordLength : Nat} {rows : List Bytes}
    (room : minHeaderSize ≤ start.length) (high : minHeaderSize ≤ dataOffset)
    (few : rows.length < 65536) (uniform : ∀ row ∈ rows, row.length = recordLength) :
    IsExport start dataOffset recordLength rows
      (writeRows start dataOffset recordLength rows) := by
  unfold minHeaderSize at room high
  have length := Bytes.length_flatten_of_uniform uniform
  have counted := Bytes.getElem?_putWord_ofNat few (show 0x1C + 2 ≤ start.length from room)
  have countedLength := Bytes.length_putWord (UInt16.ofNat rows.length)
    (show 0x1C + 2 ≤ start.length from room)
  have inside : dataOffset + rows.flatten.length ≤
      ((Bytes.putWord start 0x1C (UInt16.ofNat rows.length)).padTo
        (dataOffset + recordLength * rows.length)).length := by
    rw [Bytes.length_padTo, length]
    omega
  unfold writeRows
  refine ⟨?_, ?_⟩
  · rw [Bytes.length_overlay inside, Bytes.length_padTo, countedLength]
  · intro k
    rw [Bytes.getElem?_overlay inside, Bytes.getElem?_padTo, counted, countedLength, length]
    -- The record area lies behind the count, so the rows cannot cover it.
    by_cases low : k = 0x1C
    · rw [if_neg (by omega), if_pos (by omega), if_pos low, if_pos low]
    · rw [if_neg low, if_neg low]
      by_cases high : k = 0x1D
      · rw [if_neg (by omega), if_pos (by omega), if_pos high, if_pos high]
      · rw [if_neg high, if_neg high]

/-! ## Runs -/

/-- Without a file it is blank. -/
def startingBytes (image? : Option Bytes) (recordLength : UInt16) (dataOffset : Nat) : Bytes :=
  image?.getD (blankImage recordLength dataOffset)

variable {name : String} {image? : Option Bytes} {recordLength : UInt16} {settings : Settings}
  {store : Store}

theorem room_startingBytes (opened : openFrom name image? recordLength settings = .ok store) :
    minHeaderSize ≤ (startingBytes image? recordLength settings.dataOffset).length := by
  cases image? with
  | none =>
    have high := (settled_of_openFrom opened).1
    rw [startingBytes, Option.getD_none, length_blankImage recordLength high]
    exact high
  | some image => exact (header_of_openFrom_some opened).1

theorem startingImage_of_openFrom (opened : openFrom name image? recordLength settings = .ok store)
    (count : UInt16) :
    (store.header.set .recordCount count).startingImage settings.dataOffset =
      Bytes.putWord (startingBytes image? recordLength settings.dataOffset) 0x1C count := by
  cases image? with
  | none =>
    rw [header_of_openFrom_none opened]
    exact Header.startingImage_new recordLength count (settled_of_openFrom opened).1
  | some image =>
    obtain ⟨room, header⟩ := header_of_openFrom_some opened
    rw [header]
    rfl

theorem image_run (opened : openFrom name image? recordLength settings = .ok store)
    (operations : List Operation) :
    (store.run operations).image =
      writeRows (startingBytes image? recordLength settings.dataOffset) settings.dataOffset
        recordLength.toNat (store.run operations).records.rows := by
  have follows := follows_run opened operations
  obtain ⟨-, -, length, offset, -, -⟩ := settled_of_openFrom opened
  unfold image recordsEnd
  rw [follows.dataOffset_eq, follows.recordLength_eq, follows.header_eq, offset, length,
    startingImage_of_openFrom opened]
  rfl

theorem isExport_run (opened : openFrom name image? recordLength settings = .ok store)
    (operations : List Operation) :
    IsExport (startingBytes image? recordLength settings.dataOffset) settings.dataOffset
      recordLength.toNat (store.run operations).records.rows (store.run operations).image := by
  have follows := follows_run opened operations
  rw [image_run opened]
  apply isExport_writeRows (room_startingBytes opened) (settled_of_openFrom opened).1
  · exact Nat.lt_succ_of_le follows.count_le
  · intro row mem
    rw [follows.length_of_mem mem, (settled_of_openFrom opened).2.2.1]

/-! ## Runs that change no record -/

/-- No operation of the run puts a record into the store. -/
def ChangesNothing (store : Store) : List Operation → Prop
  | [] => True
  | operation :: rest =>
    (operation.changesRecords = true → ∃ error, (store.apply operation).1 = .error error) ∧
      ChangesNothing (store.apply operation).2 rest

theorem ChangesNothing.records_run {operations : List Operation}
    (h : store.ChangesNothing operations) : (store.run operations).records = store.records := by
  induction operations generalizing store with
  | nil => rfl
  | cons operation rest ih =>
    obtain ⟨fails, later⟩ := h
    refine (ih later).trans ?_
    rcases store.apply_cases operation with ⟨_, failed⟩ | ⟨-, _, _, moved⟩ |
      ⟨changes, _, -, applied⟩
    · rw [failed]
    · rw [moved]
    · obtain ⟨error, failed⟩ := fails changes
      rw [applied] at failed
      cases failed

theorem overlay_loaded {image : Bytes} {dataOffset length count : Nat} {records : Records}
    (loaded : Records.load image dataOffset length count = .ok records) :
    Bytes.overlay (image.padTo (dataOffset + length * records.count)) dataOffset records.flatten =
      image.padTo dataOffset := by
  obtain ⟨-, long, -, rows⟩ := Records.load_eq_ok_iff.mp loaded
  unfold Records.count Records.flatten
  rw [rows, Bytes.length_pieces, Bytes.flatten_pieces]
  by_cases none : count = 0
  · rw [none, Nat.mul_zero, Nat.add_zero, List.take_zero, Bytes.overlay_nil]
  · have inside := long (by omega)
    have whole : ((image.drop dataOffset).take (length * count)).length = length * count := by
      simp
      omega
    rw [Bytes.padTo_of_le inside, Bytes.padTo_of_le (by omega)]
    apply Bytes.overlay_eq_self
    · rw [whole]
      exact inside
    · rw [whole]

theorem image_of_openFrom (opened : openFrom name image? recordLength settings = .ok store) :
    store.image =
      (startingBytes image? recordLength settings.dataOffset).padTo settings.dataOffset := by
  cases image? with
  | none =>
    obtain ⟨high, rfl⟩ := new_eq_ok_iff.mp opened
    change Bytes.overlay (Bytes.padTo ((Header.new recordLength).startingImage _) _) _ [] = _
    rw [Header.startingImage_new_zero recordLength high, Bytes.overlay_nil]
    rfl
  | some image =>
    obtain ⟨-, _, records, loaded, rfl⟩ := ofImage_eq_ok_iff.mp opened
    exact overlay_loaded loaded

/-- An export depends on the first image and the last rows only. -/
theorem image_run_determined (opened : openFrom name image? recordLength settings = .ok store)
    (operations : List Operation) :
    let start := startingBytes image? recordLength settings.dataOffset
    let last := store.run operations
    IsExport start settings.dataOffset recordLength.toNat last.records.rows last.image ∧
    (settings.dataOffset + recordLength.toNat * last.records.rows.length ≤ maxBlockSize →
      last.image? = some last.image) ∧
    (∀ otherName other others, openFrom otherName image? recordLength settings = .ok other →
      (other.run others).records.rows = last.records.rows →
      (other.run others).image = last.image) ∧
    (store.ChangesNothing operations → last.image = start.padTo settings.dataOffset) := by
  intro start last
  have exported := isExport_run opened operations
  refine ⟨exported, ?_, ?_, ?_⟩
  · intro small
    obtain ⟨-, -, length, offset, -, -⟩ := settled_of_openFrom opened
    have follows := follows_run opened operations
    have recordsEnd_le : last.recordsEnd ≤ maxBlockSize := by
      rw [recordsEnd, follows.dataOffset_eq, follows.recordLength_eq, offset, length]
      exact small
    exact if_pos recordsEnd_le
  · intro otherName other others openedOther same
    have exportedOther := isExport_run openedOther others
    rw [same] at exportedOther
    exact exportedOther.unique exported
  · -- A run of no operations has the same rows, and exports the padded image.
    intro nothing
    have untouched := isExport_run opened []
    rw [← image_of_openFrom opened]
    rw [show (store.run []).records = last.records from nothing.records_run.symm] at untouched
    exact exported.unique untouched

/-- A file grows over its last byte by one record. -/
theorem image_run_determined_sample :
    let grown := sample.run [.insert 1 [67, 68], .updateHere [69, 70]]
    let other := sample.run [.insertHere [69, 70], .insert 9 [0, 0], .update 1 [67, 68]]
    let quiet := sample.run [.insert 9 [0, 0], .stepNext]
    IsExport sampleImage 0x1E 2 [[69, 70], [67, 68]] grown.image ∧
      grown.image? = some grown.image ∧ other.image = grown.image ∧
      quiet.image = sampleImage := by
  intro grown other quiet
  have grows := image_run_determined openFrom_sample [.insert 1 [67, 68], .updateHere [69, 70]]
  have stays := image_run_determined openFrom_sample [.insert 9 [0, 0], .stepNext]
  refine ⟨grows.1, grows.2.1 (by decide), grows.2.2.1 _ _ _ openFrom_sample rfl, ?_⟩
  refine stays.2.2.2 ⟨fun _ => ⟨_, rfl⟩, fun changes => ?_, trivial⟩
  cases changes

end RecordFile.Store
