import RecordFile.Tool.DataFile

/-! # Listings

Records in rows: a line with the index and the record as text, then lines of sixteen bytes
in hexadecimal.
-/

namespace RecordFile.Tool

def bytesPerLine : Nat := 16

structure Row where
  index : Nat
  record : Bytes
  deriving DecidableEq, Repr

namespace Row

def heading (row : Row) : String :=
  "[" ++ Text.flushRight 5 (toString row.index) ++ "] " ++ Text.ascii row.record

def hexLines (row : Row) : List String :=
  (Bytes.lines bytesPerLine row.record).map fun line => "        " ++ Text.hex line

def lines (row : Row) : List String := row.heading :: row.hexLines

end Row

def window (records : List Bytes) (offset : Nat) (limit? : Option Nat) : List Row :=
  let rows := (records.mapIdx Row.mk).drop offset
  match limit? with
  | some limit => rows.take limit
  | none => rows

def listing (path : String) (store : Store) (offset : Nat) (limit? : Option Nat) :
    List String :=
  let rows := window store.records.rows offset limit?
  let total := store.count.toNat
  ["Records in " ++ Text.quoted path ++ s!" ({total} total):", ""] ++
    rows.flatMap Row.lines ++ ["", s!"Shown {rows.length} records"]

def dump (files : FileSystem) (path : String) (recordLength : UInt16) (offset : Nat)
    (limit? : Option Nat) : Except ToolError String := do
  let store ← loadStore files path (some recordLength)
  return Text.ofLines (listing path store offset limit?)

end RecordFile.Tool
