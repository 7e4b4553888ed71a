import RecordFile.Files.ByteSource
import RecordFile.Files.FileSystem

/-! # Open files

A file is opened for reading, or created empty for appending. Only its own appends change the size
that it remembers.
-/

namespace RecordFile

structure OpenFile where
  path : String
  location : Location
  writable : Bool
  size : Nat
  deriving DecidableEq, Repr

def directorySize : Nat := 4096

def Node.size : Node → Nat
  | directory _ => directorySize
  | file content => content.length

namespace OpenFile

def openExisting (files : FileSystem) (path : String) : Except StorageError OpenFile :=
  match files.lookup path with
  | .ok (location, node) => .ok ⟨path, location, false, node.size⟩
  | .error .missing => .error (.notFound path)
  | .error fault => .error (.file fault)

/-- Directories on the way are made, and an earlier content is lost. -/
def create (files : FileSystem) (path : String) : Except StorageError OpenFile × FileSystem :=
  match files.makeDirectoriesAbove path with
  | (.error fault, files) => (.error (.file fault), files)
  | (.ok (), files) =>
    match files.truncate path with
    | .error fault => (.error (.file fault), files)
    | .ok (location, files) => (.ok ⟨path, location, true, 0⟩, files)

def readAt (file : OpenFile) (files : FileSystem) (offset n : Nat) :
    Except StorageError Bytes :=
  if file.size < offset + n then .error (.readPastEnd offset n file.size)
  else if n = 0 then .ok []
  else
    match files.node? file.location with
    | some (.directory _) => .error (.file .isDirectory)
    | some (.file content) =>
      -- Something else may have made the file shorter than it is remembered.
      match content.slice? offset n with
      | some part => .ok part
      | none => .error (.file .endedEarly)
    | none => .error (.file .endedEarly)

def source (file : OpenFile) (files : FileSystem) : ByteSource where
  size := file.size
  readAt := file.readAt files

def readAll (file : OpenFile) (files : FileSystem) : Except StorageError Bytes :=
  (file.source files).readAll

/-- Adds data at the end of the file, and tells the size remembered before. -/
def append (file : OpenFile) (files : FileSystem) (data : Bytes) :
    Except StorageError Nat × OpenFile × FileSystem :=
  -- Nothing is written for empty data, so a file open for reading takes it.
  if data.isEmpty then (.ok file.size, file, files)
  else if file.writable then
    match files.node? file.location with
    | some (.file content) =>
      (.ok file.size, { file with size := file.size + data.length },
        files.put file.location (.file (content ++ data)))
    | _ => (.error (.file .notWritable), file, files)
  else (.error (.file .notWritable), file, files)

/-- Everything that was appended is in the file already. -/
def flush (_ : OpenFile) : Except StorageError Unit := .ok ()

def writeNew (files : FileSystem) (path : String) (data : Bytes) :
    Except StorageError (Nat × Nat) × FileSystem :=
  match create files path with
  | (.error error, files) => (.error error, files)
  | (.ok file, files) =>
    let (result, file, files) := file.append files data
    (result.map fun offset => (offset, file.size), files)

end OpenFile

end RecordFile
