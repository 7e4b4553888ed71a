import RecordFile.Bytes
import RecordFile.Files.Fault

/-! # Sources of bytes

Whatever can tell its size and be read from a place. A store is loaded from the whole of it.
-/

namespace RecordFile

structure ByteSource where
  size : Nat
  readAt : Nat → Nat → Except StorageError Bytes

namespace ByteSource

def readAll (source : ByteSource) : Except StorageError Bytes := source.readAt 0 source.size

/-- Bytes in memory that tell `size`, whether it is right or not. -/
def ofBytes (bytes : Bytes) (size : Nat) : ByteSource where
  size
  readAt offset n :=
    match bytes.slice? offset n with
    | some part => .ok part
    | none => .error (.readPastEnd offset n bytes.length)

end ByteSource

end RecordFile
