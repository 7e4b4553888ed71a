import RecordFile.Files.OpenFile
import RecordFile.Image.Fields
import RecordFile.Store.Positioning
import RecordFile.Store.Records
import RecordFile.Store.Settings

/-! # Stores

The record length is the one declared when the store is opened. The header's own record length is
shown but never trusted.
-/

namespace RecordFile

structure Store where
  name : String
  /-- The declared record length. -/
  recordLength : UInt16
  dataOffset : Nat
  header : Header
  records : Records
  keys : Keys
  cursor : Cursor
  deriving DecidableEq, Repr

namespace Store

/-! ## Opening -/

def dataOffsetOf (settings : Settings) : Except StoreError Nat :=
  if settings.dataOffset < minHeaderSize then
    .error (.format (.recordAreaInHeader settings.dataOffset))
  else .ok settings.dataOffset

def ofImage (name : String) (image : Bytes) (recordLength : UInt16) (settings : Settings) :
    Except StoreError Store := do
  let dataOffset ← dataOffsetOf settings
  let headerImage ← (HeaderImage.ofBytes image).mapError .format
  let count := (headerImage.get .recordCount).toNat
  let records ← Records.load image dataOffset recordLength.toNat count
  return {
    name, recordLength, dataOffset, records
    header := .loaded headerImage
    keys := .empty
    cursor := {} }

def new (name : String) (recordLength : UInt16) (settings : Settings) :
    Except StoreError Store := do
  let dataOffset ← dataOffsetOf settings
  return {
    name, recordLength, dataOffset
    header := .new recordLength
    records := .empty recordLength.toNat
    keys := .empty
    cursor := {} }

def ofSource (name : String) (source : ByteSource) (recordLength : UInt16)
    (settings : Settings) : Except StoreError Store :=
  match source.readAll with
  | .ok image => ofImage name image recordLength settings
  | .error error => .error (.storage error)

/-- Without a file of that name, the settings say whether the store begins empty. -/
def openNamed (files : FileSystem) (name : String) (basePath : Option String)
    (recordLength : UInt16) (settings : Settings) : Except StoreError Store :=
  match OpenFile.openExisting files (settings.resolve name basePath) with
  | .ok file => ofSource name (file.source files) recordLength settings
  | .error (.notFound _) =>
    if settings.createMissing then new name recordLength settings
    else .error (.storeNotFound name)
  | .error error => .error (.storage error)

/-! ## Reading -/

def count (store : Store) : UInt16 := store.header.get .recordCount

def position (store : Store) : Nat := store.cursor.position

def get (store : Store) (index : Nat) : Except StoreError Bytes := store.records.get index

def current (store : Store) : Except StoreError Bytes := store.get store.position

/-! ## Changing records -/

def withRecords (store : Store) (records : Records) : Store :=
  { store with
    records
    header := store.header.set .recordCount (UInt16.ofNat records.count) }

def insert (store : Store) (index : Nat) (data : Bytes) : Except StoreError Store :=
  (store.records.insert index data).map store.withRecords

def update (store : Store) (index : Nat) (data : Bytes) : Except StoreError Store :=
  (store.records.update index data).map store.withRecords

def insertHere (store : Store) (data : Bytes) : Except StoreError Store :=
  store.insert store.position data

def updateHere (store : Store) (data : Bytes) : Except StoreError Store :=
  store.update store.position data

/-! ## Positioning -/

def stepFirst (store : Store) : Status × Store :=
  let (status, cursor) := store.cursor.stepFirst store.records.count
  (status, { store with cursor })

def stepNext (store : Store) : Status × Store :=
  let (status, cursor) := store.cursor.stepNext
  (status, { store with cursor })

/-- Without a record that was found the cursor stays. -/
def moveTo (store : Store) : Option Nat → Status × Store
  | some index => (.found, { store with cursor := store.cursor.seek index })
  | none => (.notFound, store)

def findLeading (store : Store) (sought : Bytes) : Status × Store :=
  store.moveTo (store.records.findLeading? sought)

/-- A number without a key means the leading bytes of the record. -/
def lookup? (store : Store) (number : UInt16) (sought : Bytes) : Option Nat :=
  match store.keys.get? number with
  | some key => store.records.findKeyed? key sought
  | none => store.records.findLeading? sought

def findEqual (store : Store) (number : UInt16) (sought : Bytes) : Status × Store :=
  store.moveTo (store.lookup? number sought)

/-! ## Keys -/

def defineKey (store : Store) (number length : UInt16) (data : Bytes) :
    Except StoreError Store := do
  let key ← Key.ofBytes number length data
  let keys ← store.keys.insert key
  return { store with keys }

/-! ## Writing out -/

def recordsEnd (store : Store) : Nat :=
  store.dataOffset + store.recordLength.toNat * store.records.count

/-- A loaded file keeps all bytes but the record area and the record count. -/
def image (store : Store) : Bytes :=
  let start := store.header.startingImage store.dataOffset
  (start.padTo store.recordsEnd).overlay store.dataOffset store.records.flatten

/-- None when the image would be too large. -/
def image? (store : Store) : Option Bytes :=
  if store.recordsEnd ≤ maxBlockSize then some store.image else none

end Store

end RecordFile
