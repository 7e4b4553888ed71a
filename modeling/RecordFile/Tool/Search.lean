import RecordFile.Tool.DataFile

/-! # Searches

The first record that begins with a key. The key is a text, or bytes in hexadecimal.
-/

namespace RecordFile.Tool

def keyBytes (key : String) (inHex : Bool) : Except ToolError Bytes :=
  if inHex then (Text.parseHex key).mapError (.hexKey key) else .ok key.toUTF8.toList

def searchLines (store : Store) (key : Bytes) : Except StoreError (List String) :=
  match store.findLeading key with
  | (.notFound, _) => .ok ["No record starts with " ++ Text.hex key]
  | (.found, store) => store.current.map fun record =>
    [s!"Found at record {store.position}", "  " ++ Text.ascii record, "  " ++ Text.hex record]

/-- A bad key is told before the file is looked at. -/
def find (files : FileSystem) (path : String) (recordLength : UInt16) (key : String)
    (inHex : Bool) : Except ToolError String := do
  let key ← keyBytes key inHex
  let store ← loadStore files path (some recordLength)
  let lines ← (searchLines store key).mapError .store
  return Text.ofLines lines

end RecordFile.Tool
