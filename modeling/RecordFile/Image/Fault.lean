import RecordFile.Image.Layout
import RecordFile.Text.Digits

/-! # Why an image is not a record file -/

namespace RecordFile

inductive FormatFault
  | shortHeader (size : Nat)
  /-- The end of the record area is past every address. -/
  | recordAreaOverflow
  | shortRecordArea (count recordLength needed size : Nat)
  | recordAreaInHeader (offset : Nat)
  deriving DecidableEq, Repr

def FormatFault.message : FormatFault → String
  | shortHeader size => s!"file is {size} bytes, header needs at least {minHeaderSize}"
  | recordAreaOverflow => "record area size overflows"
  | shortRecordArea count recordLength needed size =>
    s!"{count} records of {recordLength} bytes need {needed} bytes, file has {size}"
  | recordAreaInHeader offset =>
    let place := Text.lowerHex offset
    let room := Text.lowerHex minHeaderSize
    s!"record area at 0x{place} overlaps the header, which needs 0x{room} bytes"

end RecordFile
