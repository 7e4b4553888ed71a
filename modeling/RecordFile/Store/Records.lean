import RecordFile.Bytes
import RecordFile.Image.Layout
import RecordFile.Store.Fault
import RecordFile.Store.Key

/-! # Records

The records of a file are a list of rows of one length. An insert moves later rows up, and
a search begins at the first row.
-/

namespace RecordFile

structure Records where
  recordLength : Nat
  rows : List Bytes
  uniform : ∀ row ∈ rows, row.length = recordLength
  deriving DecidableEq, Repr

namespace Records

def empty (recordLength : Nat) : Records := ⟨recordLength, [], by simp⟩

theorem length_of_mem_loaded {image : Bytes} {dataOffset recordLength count : Nat}
    (long : ¬(0 < count ∧ image.length < dataOffset + recordLength * count)) :
    ∀ row ∈ Bytes.pieces recordLength count (image.drop dataOffset), row.length = recordLength := by
  intro row mem
  cases count with
  | zero => simp [Bytes.pieces] at mem
  | succ count =>
    refine Bytes.length_of_mem_pieces ?_ mem
    rw [List.length_drop]
    omega

def load (image : Bytes) (dataOffset recordLength count : Nat) : Except StoreError Records :=
  let needed := dataOffset + recordLength * count
  if addressLimit ≤ needed then .error (.format .recordAreaOverflow)
  else if short : 0 < count ∧ image.length < needed then
    .error (.format (.shortRecordArea count recordLength needed image.length))
  else
    .ok {
      recordLength
      rows := Bytes.pieces recordLength count (image.drop dataOffset)
      uniform := length_of_mem_loaded short }

/-- What a list of rows takes in memory for each row. -/
def rowEntrySize : Nat := 24

/-- Only rows without bytes can be too many: a short image is refused first. -/
def load? (image : Bytes) (dataOffset recordLength count : Nat) :
    Option (Except StoreError Records) :=
  if dataOffset + recordLength * count ≤ image.length ∧ maxBlockSize < rowEntrySize * count then
    none
  else some (load image dataOffset recordLength count)

def count (records : Records) : Nat := records.rows.length

def get (records : Records) (index : Nat) : Except StoreError Bytes :=
  match records.rows[index]? with
  | some row => .ok row
  | none => .error (.indexOutOfRange index records.count)

/-- Puts a row in front of the one at `index`, or after the last one. -/
def insert (records : Records) (index : Nat) (data : Bytes) : Except StoreError Records :=
  if fits : data.length = records.recordLength then
    if outside : records.count < index then .error (.indexOutOfRange index records.count)
    else if maxRecords ≤ records.count then .error .storeFull
    else
      .ok {
        records with
        rows := records.rows.insertIdx index data
        uniform := fun row h => by
          rcases (List.mem_insertIdx (Nat.le_of_not_lt outside)).mp h with rfl | h
          · exact fits
          · exact records.uniform row h }
  else .error (.lengthMismatch records.recordLength data.length)

def update (records : Records) (index : Nat) (data : Bytes) : Except StoreError Records :=
  if fits : data.length = records.recordLength then
    if records.rows.isEmpty ∧ index = 0 then
      -- Without any row, row 0 is made.
      .ok { records with rows := [data], uniform := by simpa using fits }
    else if index < records.count then
      .ok {
        records with
        rows := records.rows.set index data
        uniform := fun row h => by
          rcases List.mem_or_eq_of_mem_set h with h | rfl
          · exact records.uniform row h
          · exact fits }
    else .error (.indexOutOfRange index records.count)
  else .error (.lengthMismatch records.recordLength data.length)

def findLeading? (records : Records) (sought : Bytes) : Option Nat :=
  records.rows.findIdx? (sought.isPrefixOf ·)

def findKeyed? (records : Records) (key : Key) (sought : Bytes) : Option Nat :=
  records.rows.findIdx? (key.fieldBegins · sought)

def flatten (records : Records) : Bytes := records.rows.flatten

end Records

end RecordFile
