import RecordFile.Text.Json
import RecordFile.Text.Size
import RecordFile.Tool.DataFile

/-! # Summaries

What the header of a data file says, as text or as a JSON object.
-/

namespace RecordFile.Tool

structure Summary where
  path : String
  /-- The record length that the file was read with. -/
  recordLength : UInt16
  header : HeaderFields
  pageCount? : Option Nat
  imageSize : Nat
  deriving DecidableEq, Repr

namespace Summary

def ofStore (path : String) (store : Store) : Summary where
  path
  recordLength := store.recordLength
  header := store.header.fields
  pageCount? := store.header.pageCount?
  imageSize := (store.header.image?.map (·.length)).getD 0

def note (summary : Summary) : List String :=
  let used := summary.recordLength.toNat
  let told := summary.header.recordLength.toNat
  if used = told then []
  else ["", s!"Note: reading with record length {used} (header says {told})"]

def lines (summary : Summary) : List String :=
  let header := summary.header
  let pages :=
    match summary.pageCount? with
    | some count => toString count
    | none => "n/a"
  [ "ISAM Data File Inspection",
    "=========================",
    "",
    "Path: " ++ summary.path,
    "Size: " ++ Text.sizeText summary.imageSize ++ " bytes",
    "",
    "Header:",
    s!"  Page length:            {header.pageLength.toNat}",
    "  Page count:             " ++ pages,
    s!"  Key count:              {header.keyCount.toNat}",
    s!"  Record length:          {header.recordLength.toNat}",
    s!"  Physical record length: {header.physicalRecordLength.toNat}",
    "",
    "Records:",
    s!"  Count:  {header.recordCount.toNat}",
    s!"  Length: {summary.recordLength.toNat} bytes" ] ++ summary.note

def text (summary : Summary) : String := Text.ofLines summary.lines

/-- There is no page count where there are no pages. -/
def members (summary : Summary) : List (String × Text.JsonValue) :=
  let header := summary.header
  let pages :=
    match summary.pageCount? with
    | some count => [("page_count", .number count)]
    | none => []
  [ ("path", .text summary.path),
    ("record_length", .number summary.recordLength.toNat),
    ("header_record_length", .number header.recordLength.toNat),
    ("physical_record_length", .number header.physicalRecordLength.toNat),
    ("page_length", .number header.pageLength.toNat) ] ++ pages ++
  [ ("key_count", .number header.keyCount.toNat),
    ("record_count", .number header.recordCount.toNat),
    ("image_size", .number summary.imageSize) ]

def json (summary : Summary) : String := Text.ofLines [Text.jsonObject summary.members]

end Summary

/-- JSON if asked for by that name, text for any other. -/
def inspect (files : FileSystem) (path : String) (recordLength? : Option UInt16)
    (format : String) : Except ToolError String := do
  let store ← loadStore files path recordLength?
  let summary := Summary.ofStore path store
  return if format = "json" then summary.json else summary.text

end RecordFile.Tool
