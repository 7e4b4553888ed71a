import RecordFile.Files.Path
import RecordFile.Image.Layout

/-! # Settings

Where stores are looked up, what becomes of a missing one, and where records begin.
-/

namespace RecordFile

structure Settings where
  /-- The directory of stores that are opened without a directory of their own. -/
  basePath : Option String := none
  /-- A missing file opens as an empty store. -/
  createMissing : Bool := true
  dataOffset : Nat := standardDataOffset
  deriving DecidableEq, Repr

def Settings.resolve (settings : Settings) (name : String) (basePath : Option String) : String :=
  -- A base path given with the name wins, unless it is empty.
  match basePath.filter (· ≠ "") with
  | some base => Path.join base name
  | none =>
    match settings.basePath with
    | some base => Path.join base name
    | none => name

end RecordFile
