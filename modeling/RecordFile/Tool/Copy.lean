import RecordFile.Tool.DataFile

/-! # Copies

A copy over the source itself is refused: both paths are compared by the place they lead to, or by
their parts when one of them leads nowhere.
-/

namespace RecordFile.Tool

/-- As far as can be told before anything is written. -/
def sameFile (files : FileSystem) (a b : String) : Bool :=
  match files.canonical a, files.canonical b with
  | .ok placeA, .ok placeB => placeA == placeB
  | _, _ => Path.same a b

def copyLine (store : Store) (size : Nat) (output : String) : String :=
  s!"Exported {store.count.toNat} records ({size} bytes) to " ++ Text.quoted output

def copy (files : FileSystem) (path : String) (recordLength : UInt16) (output : String) :
    Except ToolError String × FileSystem :=
  if sameFile files path output then (.error .sameFile, files)
  else
    match loadStore files path (some recordLength) with
    | .error error => (.error error, files)
    | .ok store =>
      let image := store.image
      match OpenFile.writeNew files output image with
      | (.error error, files) => (.error (.storage error), files)
      | (.ok _, files) => (.ok (Text.ofLines [copyLine store image.length output]), files)

end RecordFile.Tool
