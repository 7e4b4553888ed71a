import RecordFile.Image.Fields

/-! # Images from their description

A file image said in words. Nothing checks that the words agree, so broken images can be said too.
-/

namespace RecordFile

structure ImageSpec where
  fields : HeaderFields
  /-- A record count to store instead of the number of records. -/
  recordCount? : Option UInt16 := none
  records : List Bytes := []
  dataOffset : Nat := standardDataOffset
  /-- The number of zeros after the last record. -/
  trailing : Nat := 0
  deriving DecidableEq, Repr

namespace ImageSpec

def standardPageLength : UInt16 := 512

def new (recordLength : UInt16) : ImageSpec where
  fields := {
    pageLength := standardPageLength
    recordLength
    physicalRecordLength := recordLength }

def withField (spec : ImageSpec) (field : HeaderField) (value : UInt16) : ImageSpec :=
  { spec with fields := spec.fields.set field value }

def withRecords (spec : ImageSpec) (records : List Bytes) : ImageSpec :=
  { spec with records := spec.records ++ records }

def count (spec : ImageSpec) : UInt16 :=
  spec.recordCount?.getD (UInt16.ofNat spec.records.length)

def body (spec : ImageSpec) : Bytes := spec.records.flatten ++ List.replicate spec.trailing 0

def build (spec : ImageSpec) : Bytes :=
  let fields := spec.fields.set .recordCount spec.count
  fields.writeTo (List.replicate spec.dataOffset 0) ++ spec.body

/-- The header fits before the records, and their number into its field. -/
def IsBuildable (spec : ImageSpec) : Prop :=
  minHeaderSize ≤ spec.dataOffset ∧ (spec.recordCount? = none → spec.records.length ≤ maxRecords)

instance (spec : ImageSpec) : Decidable spec.IsBuildable :=
  inferInstanceAs (Decidable (_ ∧ _))

def size (spec : ImageSpec) : Nat :=
  spec.dataOffset + spec.records.flatten.length + spec.trailing

def build? (spec : ImageSpec) : Option Bytes :=
  if spec.IsBuildable ∧ spec.size ≤ maxBlockSize then some spec.build else none

/-! ## Lettered images -/

def letter (index : Nat) : UInt8 := UInt8.ofNat (65 + index % 26)

def lettered (recordLength : UInt16) (count : Nat) : ImageSpec :=
  (new recordLength).withRecords
    ((List.range count).map fun index => List.replicate recordLength.toNat (letter index))

def letteredImage? (recordLength : UInt16) (count : Nat) : Option Bytes :=
  if count ≤ maxRecords then (lettered recordLength count).build? else none

end ImageSpec

end RecordFile
