import RecordFile.Store.Basic
import RecordFile.Tool.Fault

/-! # Data files for the tools

Unlike the registry, the tools need the file to be there.
-/

namespace RecordFile.Tool

def recordLengthOf (image : Bytes) : Option UInt16 → Except FormatFault UInt16
  | some recordLength => .ok recordLength
  | none => (HeaderImage.ofBytes image).map (·.get .recordLength)

def storeOf (path : String) (image : Bytes) (recordLength? : Option UInt16) :
    Except ToolError Store :=
  match recordLengthOf image recordLength? with
  | .error fault => .error (.store (.format fault))
  | .ok recordLength =>
    if recordLength = 0 then .error .zeroRecordLength
    else (Store.ofImage ((Path.fileName? path).getD "") image recordLength {}).mapError .store

def loadStore (files : FileSystem) (path : String) (recordLength? : Option UInt16) :
    Except ToolError Store :=
  if files.isPresent path then
    match OpenFile.openExisting files path with
    | .error error => .error (.storage error)
    | .ok file =>
      match file.readAll files with
      | .error error => .error (.storage error)
      | .ok image => storeOf path image recordLength?
  else .error (.noDataFile path)

end RecordFile.Tool
