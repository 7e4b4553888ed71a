import RecordFile.Text.Digits

/-! # Handles

An open store is known by a number of 16 bits. The table of open stores is kept in the
order of the handles.
-/

namespace RecordFile

structure Handle where
  value : UInt16
  deriving DecidableEq, Repr

def Handle.text (handle : Handle) : String :=
  let n := handle.value.toNat
  let digits := [n / 4096, n / 256 % 16, n / 16 % 16, n % 16]
  "store:" ++ String.ofList (digits.map Text.hexDigit)

/-! ## Tables -/

/-- What is held under each handle, in handle order. -/
structure HandleTable (α : Type) where
  entries : List (Handle × α)
  deriving Repr

namespace HandleTable

variable {α : Type}

def empty : HandleTable α := ⟨[]⟩

def get? (table : HandleTable α) (handle : Handle) : Option α :=
  (table.entries.find? (·.1 == handle)).map (·.2)

/-- A value held under the handle before is lost. -/
def putEntry (handle : Handle) (value : α) : List (Handle × α) → List (Handle × α)
  | [] => [(handle, value)]
  | entry :: rest =>
    if handle = entry.1 then (handle, value) :: rest
    else if handle.value < entry.1.value then (handle, value) :: entry :: rest
    else entry :: putEntry handle value rest

def put (table : HandleTable α) (handle : Handle) (value : α) : HandleTable α :=
  ⟨putEntry handle value table.entries⟩

def erase (table : HandleTable α) (handle : Handle) : HandleTable α :=
  ⟨table.entries.filter (·.1 != handle)⟩

def handles (table : HandleTable α) : List Handle := table.entries.map (·.1)

end HandleTable

end RecordFile
