import RecordFile.Store.Fault
import RecordFile.Text.Hex

/-! # Why a file tool fails -/

namespace RecordFile

inductive ToolError
  | noDataFile (path : String)
  | zeroRecordLength
  | sameFile
  | hexKey (key : String) (fault : Text.HexFault)
  | pathRequired (command : String)
  | recordLengthRequired (command : String)
  | store (error : StoreError)
  | storage (error : StorageError)
  deriving DecidableEq, Repr

namespace ToolError

def hexMessage (key : String) : Text.HexFault → String
  | .notAscii => "Invalid hex key " ++ Text.quoted key ++ ": non-ASCII characters"
  | .oddCount => "Hex key has an odd number of digits: " ++ key
  | .badDigit => "Invalid hex key " ++ Text.quoted key ++ ": invalid digit found in string"

def message : ToolError → String
  | noDataFile path => "No data file found at " ++ Text.quoted path
  | zeroRecordLength => "Record length is zero; pass --record-length"
  | sameFile => "Output must differ from the source file"
  | hexKey key fault => hexMessage key fault
  | pathRequired command => "Data file path required for " ++ command
  | recordLengthRequired command => "Record length required for " ++ command
  | store error => error.message
  | storage error => error.message

def shown : ToolError → String
  | store error => error.shown
  | storage error => error.shown
  | error => Text.quoted error.message

end ToolError

end RecordFile
