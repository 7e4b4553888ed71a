import RecordFile.Text.Quoted
import RecordFile.Text.Shown

/-! # Why a file operation fails

The faults of the file system itself, and the errors of a file that is open as storage.
-/

namespace RecordFile

/-! ## The file system -/

inductive FileFault
  | missing
  | notDirectory
  | isDirectory
  | alreadyExists
  /-- A name or the whole path is too long. -/
  | nameTooLong
  | nulInName
  | notWritable
  /-- The file is shorter now than when it was opened. -/
  | endedEarly
  deriving DecidableEq, Repr

namespace FileFault

/-- The system's own number of the fault. -/
def code? : FileFault → Option Nat
  | missing => some 2
  | notDirectory => some 20
  | isDirectory => some 21
  | alreadyExists => some 17
  | nameTooLong => some 36
  | notWritable => some 9
  | nulInName | endedEarly => none

def kind : FileFault → String
  | missing => "NotFound"
  | notDirectory => "NotADirectory"
  | isDirectory => "IsADirectory"
  | alreadyExists => "AlreadyExists"
  | nameTooLong => "InvalidFilename"
  | nulInName => "InvalidInput"
  | notWritable => "Uncategorized"
  | endedEarly => "UnexpectedEof"

def reason : FileFault → String
  | missing => "No such file or directory"
  | notDirectory => "Not a directory"
  | isDirectory => "Is a directory"
  | alreadyExists => "File exists"
  | nameTooLong => "File name too long"
  | nulInName => "file name contained an unexpected NUL byte"
  | notWritable => "Bad file descriptor"
  | endedEarly => "failed to fill whole buffer"

def message (fault : FileFault) : String :=
  match fault.code? with
  | some code => s!"{fault.reason} (os error {code})"
  | none => fault.reason

def shown (fault : FileFault) : String :=
  let parts := [("kind", fault.kind), ("message", Text.quoted fault.reason)]
  match fault.code? with
  | some code => Text.shownParts "Os" (("code", toString code) :: parts)
  | none => Text.shownParts "Error" parts

end FileFault

/-! ## Storage -/

inductive StorageError
  | file (fault : FileFault)
  | readPastEnd (offset len size : Nat)
  | notFound (path : String)
  deriving DecidableEq, Repr

namespace StorageError

def message : StorageError → String
  | file fault => "I/O error: " ++ fault.message
  | readPastEnd offset len size =>
    s!"read beyond end of storage: offset {offset}, len {len}, size {size}"
  | notFound path => "file not found: " ++ path

def shown : StorageError → String
  | file fault => Text.shownAround "Io" fault.shown
  | readPastEnd offset len size =>
    Text.shownParts "ReadPastEnd"
      [("offset", toString offset), ("len", toString len), ("size", toString size)]
  | notFound path => Text.shownAround "NotFound" (Text.quoted path)

end StorageError

end RecordFile
