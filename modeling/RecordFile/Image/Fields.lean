import RecordFile.Bytes
import RecordFile.Image.Fault

/-! # The header

The header of a loaded file lives in the file's image, which so always shows the current values. A
store without a file has the bare values instead.
-/

namespace RecordFile

/-! ## Values -/

structure HeaderFields where
  pageLength : UInt16 := 0
  keyCount : UInt16 := 0
  recordLength : UInt16 := 0
  physicalRecordLength : UInt16 := 0
  recordCount : UInt16 := 0
  deriving DecidableEq, Repr

namespace HeaderFields

def get (fields : HeaderFields) : HeaderField → UInt16
  | .pageLength => fields.pageLength
  | .keyCount => fields.keyCount
  | .recordLength => fields.recordLength
  | .physicalRecordLength => fields.physicalRecordLength
  | .recordCount => fields.recordCount

def set (fields : HeaderFields) (field : HeaderField) (value : UInt16) : HeaderFields :=
  match field with
  | .pageLength => { fields with pageLength := value }
  | .keyCount => { fields with keyCount := value }
  | .recordLength => { fields with recordLength := value }
  | .physicalRecordLength => { fields with physicalRecordLength := value }
  | .recordCount => { fields with recordCount := value }

@[simp] theorem get_set_self (fields : HeaderFields) (field : HeaderField) (value : UInt16) :
    (fields.set field value).get field = value := by cases field <;> rfl

theorem get_set_of_ne (fields : HeaderFields) {field other : HeaderField} (value : UInt16)
    (h : other ≠ field) : (fields.set field value).get other = fields.get other := by
  cases field <;> cases other <;> first | rfl | exact absurd rfl h

def ofValues (value : HeaderField → UInt16) : HeaderFields :=
  ⟨value .pageLength, value .keyCount, value .recordLength, value .physicalRecordLength,
    value .recordCount⟩

def writeTo (fields : HeaderFields) (buffer : Bytes) : Bytes :=
  HeaderField.all.foldl (fun buffer field => buffer.putWord field.offset (fields.get field))
    buffer

def writeTo? (fields : HeaderFields) (buffer : Bytes) : Option Bytes :=
  if minHeaderSize ≤ buffer.length then some (fields.writeTo buffer) else none

end HeaderFields

/-! ## Fields inside an image -/

/-- A file image with room for a header. -/
structure HeaderImage where
  bytes : Bytes
  room : minHeaderSize ≤ bytes.length
  deriving DecidableEq, Repr

namespace HeaderImage

def ofBytes (bytes : Bytes) : Except FormatFault HeaderImage :=
  if room : minHeaderSize ≤ bytes.length then .ok ⟨bytes, room⟩
  else .error (.shortHeader bytes.length)

def get (image : HeaderImage) (field : HeaderField) : UInt16 :=
  image.bytes.wordAt field.offset (Nat.le_trans field.offset_add_two_le image.room)

def set (image : HeaderImage) (field : HeaderField) (value : UInt16) : HeaderImage where
  bytes := image.bytes.putWord field.offset value
  room := by
    rw [Bytes.length_putWord _ (Nat.le_trans field.offset_add_two_le image.room)]
    exact image.room

@[simp] theorem length_set (image : HeaderImage) (field : HeaderField) (value : UInt16) :
    (image.set field value).bytes.length = image.bytes.length :=
  Bytes.length_putWord _ (Nat.le_trans field.offset_add_two_le image.room)

/-- None without a page length, nor when the image is shorter than a page. -/
def pageCount? (image : HeaderImage) : Option Nat :=
  match image.bytes.length / (image.get .pageLength).toNat with
  | 0 => none
  | count + 1 => if count < 0x100000000 then some count else none

end HeaderImage

/-! ## Headers -/

inductive Header
  /-- The fields live in the image of the file. -/
  | loaded (image : HeaderImage)
  /-- There is no file, only values. -/
  | bare (fields : HeaderFields)
  deriving DecidableEq, Repr

namespace Header

def ofImage (bytes : Bytes) : Except FormatFault Header := (HeaderImage.ofBytes bytes).map loaded

def new (recordLength : UInt16) : Header :=
  bare { recordLength, physicalRecordLength := recordLength }

def get : Header → HeaderField → UInt16
  | loaded image, field => image.get field
  | bare fields, field => fields.get field

def set : Header → HeaderField → UInt16 → Header
  | loaded image, field, value => loaded (image.set field value)
  | bare fields, field, value => bare (fields.set field value)

def fields (header : Header) : HeaderFields := HeaderFields.ofValues header.get

def pageCount? : Header → Option Nat
  | loaded image => image.pageCount?
  | bare _ => none

def isLoaded : Header → Bool
  | loaded _ => true
  | bare _ => false

def image? : Header → Option Bytes
  | loaded image => some image.bytes
  | bare _ => none

/-- A new store gets `size` zeros with its fields written in. -/
def startingImage (header : Header) (size : Nat) : Bytes :=
  match header with
  | loaded image => image.bytes
  | bare fields => fields.writeTo (List.replicate size 0)

end Header

end RecordFile
