import RecordFile.Image.Layout

/-! # The cursor

Stepping on never looks at the records: it reports success even past the last record, and reading
there is what fails.
-/

namespace RecordFile

inductive Status
  | found
  | notFound
  deriving DecidableEq, Repr

namespace Status

def ofBool : Bool → Status
  | true => found
  | false => notFound

def isFound : Status → Bool
  | found => true
  | notFound => false

def code : Status → UInt16
  | found => 1
  | notFound => 0

end Status

structure Cursor where
  position : Nat := 0
  deriving DecidableEq, Repr

namespace Cursor

/-- The last position that stepping can reach. -/
def maxPosition : Nat := addressLimit - 1

def stepFirst (_ : Cursor) (recordCount : Nat) : Status × Cursor :=
  (.ofBool (0 < recordCount), ⟨0⟩)

/-- The next record is found whether it is there or not. -/
def stepNext (cursor : Cursor) : Status × Cursor :=
  (.found, ⟨min (cursor.position + 1) maxPosition⟩)

def seek (_ : Cursor) (index : Nat) : Cursor := ⟨index⟩

end Cursor

end RecordFile
