/-! # Layout of a record file

```text
0x08  page length
0x14  key count
0x16  record length
0x18  physical record length
0x1C  record count
0x206 record 0, and record i at 0x206 + i * record length
```

Every header field is a word with the low byte first.
-/

namespace RecordFile

/-! ## Header -/

inductive HeaderField
  | pageLength
  | keyCount
  | recordLength
  | physicalRecordLength
  | recordCount
  deriving DecidableEq, Repr

namespace HeaderField

def all : List HeaderField :=
  [pageLength, keyCount, recordLength, physicalRecordLength, recordCount]

def offset : HeaderField → Nat
  | pageLength => 0x08
  | keyCount => 0x14
  | recordLength => 0x16
  | physicalRecordLength => 0x18
  | recordCount => 0x1C

end HeaderField

/-- The smallest image from which every header field can be read. -/
def minHeaderSize : Nat := 0x1E

theorem HeaderField.offset_add_two_le (field : HeaderField) :
    field.offset + 2 ≤ minHeaderSize := by cases field <;> decide

/-! ## Records -/

/-- Where record 0 begins, unless a store is configured otherwise. -/
def standardDataOffset : Nat := 0x206

def maxRecords : Nat := 65535

/-- Sizes and offsets stay below this bound. -/
def addressLimit : Nat := 0x10000000000000000

/-- An image or a list of rows takes at most this many bytes. -/
def maxBlockSize : Nat := 0x7FFFFFFFFFFFFFFF

/-! ## Key descriptors -/

def sampleKeyStart : Nat := 4

def offsetTailLength : Nat := 4

end RecordFile
