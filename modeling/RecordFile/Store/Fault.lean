import RecordFile.Files.Fault
import RecordFile.Image.Fault

/-! # Why a store operation fails

Each error names its cause with the values that explain it. An error ends only the
operation that raised it.
-/

namespace RecordFile

inductive StoreError
  | storage (error : StorageError)
  | format (fault : FormatFault)
  | lengthMismatch (expected actual : Nat)
  | indexOutOfRange (index count : Nat)
  | storeFull
  | invalidKeyDescriptor (number size needed : Nat)
  | duplicateKey (number : Nat)
  | storeNotFound (name : String)
  | unknownHandle (handle : Nat)
  | handlesExhausted
  | noCurrentStore
  | unknownStepOption (code : Nat)
  | unsupportedObtainOption (code : Nat)
  deriving DecidableEq, Repr

namespace StoreError

def descriptorText (number size needed : Nat) : String :=
  s!"key {number}: descriptor has {size} bytes, needs at least {needed}"

def message : StoreError → String
  | storage error => "storage error: " ++ error.message
  | format fault => "invalid file format: " ++ fault.message
  | lengthMismatch expected actual =>
    s!"record length mismatch: expected {expected} bytes, got {actual}"
  | indexOutOfRange index count => s!"record index {index} out of range (record count {count})"
  | storeFull => s!"store is full: record count cannot exceed {maxRecords}"
  | invalidKeyDescriptor number size needed =>
    "invalid key descriptor: " ++ descriptorText number size needed
  | duplicateKey number => s!"key {number} is already defined"
  | storeNotFound name => "store not found: " ++ name
  | unknownHandle handle => s!"unknown store handle: {handle}"
  | handlesExhausted => "store handles exhausted"
  | noCurrentStore => "no current store has been set"
  | unknownStepOption code => s!"unknown step option code: {code}"
  | unsupportedObtainOption code => s!"unsupported obtain option code: {code}"

def shown : StoreError → String
  | storage error => Text.shownAround "Storage" error.shown
  | format fault => Text.shownParts "Format" [("message", Text.quoted fault.message)]
  | lengthMismatch expected actual =>
    Text.shownParts "LengthMismatch"
      [("expected", toString expected), ("actual", toString actual)]
  | indexOutOfRange index count =>
    Text.shownParts "IndexOutOfRange" [("index", toString index), ("count", toString count)]
  | storeFull => Text.shownParts "StoreFull" [("max", toString maxRecords)]
  | invalidKeyDescriptor number size needed =>
    Text.shownParts "InvalidKeyDescriptor"
      [("message", Text.quoted (descriptorText number size needed))]
  | duplicateKey number => Text.shownParts "DuplicateKey" [("number", toString number)]
  | storeNotFound name => Text.shownParts "StoreNotFound" [("name", Text.quoted name)]
  | unknownHandle handle => Text.shownParts "UnknownHandle" [("handle", toString handle)]
  | handlesExhausted => "HandlesExhausted"
  | noCurrentStore => "NoCurrentStore"
  | unknownStepOption code => Text.shownParts "UnknownStepOption" [("code", toString code)]
  | unsupportedObtainOption code =>
    Text.shownParts "UnsupportedObtainOption" [("code", toString code)]

end StoreError

end RecordFile
