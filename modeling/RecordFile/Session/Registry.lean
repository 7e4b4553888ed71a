import RecordFile.Session.Selection
import RecordFile.Store.Basic

/-! # The registry

Handles are given out from 1 upward and never again. A record that is found replaces the content of
the destination, which is not touched otherwise.
-/

namespace RecordFile

/-! ## Option codes -/

inductive Step
  | first
  | next
  deriving DecidableEq, Repr

namespace Step

def code : Step → UInt16
  | first => 33
  | next => 24

def ofCode (code : UInt16) : Except StoreError Step :=
  if code = first.code then .ok first
  else if code = next.code then .ok next
  else .error (.unknownStepOption code.toNat)

end Step

inductive Lookup
  | equal
  deriving DecidableEq, Repr

namespace Lookup

def code : Lookup → UInt16
  | equal => 5

def ofCode (code : UInt16) : Except StoreError Lookup :=
  if code = equal.code then .ok equal
  else .error (.unsupportedObtainOption code.toNat)

end Lookup

/-! ## Registries -/

structure Registry where
  settings : Settings
  stores : HandleTable Store
  /-- The handle of the next store to be opened; 0 once all are used up. -/
  nextHandle : UInt16
  deriving Repr

namespace Registry

def new (settings : Settings) : Registry := ⟨settings, .empty, 1⟩

def store (registry : Registry) (handle : Handle) : Except StoreError Store :=
  match registry.stores.get? handle with
  | some store => .ok store
  | none => .error (.unknownHandle handle.value.toNat)

def withStore (registry : Registry) (handle : Handle) (store : Store) : Registry :=
  { registry with stores := registry.stores.put handle store }

/-! ## Opening and closing -/

def openStore (registry : Registry) (files : FileSystem) (selection : Selection) (name : String)
    (basePath : Option String) (recordLength : UInt16) :
    Except StoreError (Handle × Registry × Selection) :=
  if registry.nextHandle = 0 then .error .handlesExhausted
  else do
    let store ← Store.openNamed files name basePath recordLength registry.settings
    let handle : Handle := ⟨registry.nextHandle⟩
    let registry := { registry.withStore handle store with nextHandle := registry.nextHandle + 1 }
    return (handle, registry, selection.activate handle)

def close (registry : Registry) (selection : Selection) (handle : Handle) :
    Except StoreError (Store × Registry × Selection) := do
  let store ← registry.store handle
  return (store, { registry with stores := registry.stores.erase handle }, selection.forget handle)

/-! ## The current store -/

def select (registry : Registry) (selection : Selection) (handle : Handle) :
    Except StoreError Selection := do
  let _ ← registry.store handle
  return selection.select handle

def current (registry : Registry) (selection : Selection) : Except StoreError Handle :=
  match selection.active with
  | none => .error .noCurrentStore
  | some handle => (registry.store handle).map fun _ => handle

/-! ## Records -/

def copyOut (store : Store) (status : Status) (destination : Bytes) :
    Except StoreError Status × Bytes :=
  if status.isFound then
    match store.current with
    | .ok record => (.ok status, record)
    | .error error => (.error error, destination)
  else (.ok status, destination)

def positionWith (registry : Registry) (handle : Handle) (move : Store → Status × Store)
    (destination : Bytes) : Except StoreError Status × Registry × Bytes :=
  match registry.store handle with
  | .error error => (.error error, registry, destination)
  | .ok store =>
    let (status, store) := move store
    let (result, destination) := copyOut store status destination
    (result, registry.withStore handle store, destination)

/-- Past the last record the cursor moves all the same, and the copy fails. -/
def step (registry : Registry) (handle : Handle) (option : Step) (destination : Bytes) :
    Except StoreError Status × Registry × Bytes :=
  let move :=
    match option with
    | .first => Store.stepFirst
    | .next => Store.stepNext
  registry.positionWith handle move destination

def lookUp (registry : Registry) (handle : Handle) (key : Bytes) (number : UInt16)
    (option : Lookup) (destination : Bytes) : Except StoreError Status × Registry × Bytes :=
  match option with
  | .equal => registry.positionWith handle (·.findEqual number key) destination

/-- Moves to what is found and copies nothing. -/
def seek (registry : Registry) (handle : Handle) (key : Bytes) :
    Except StoreError (Status × Registry) := do
  let store ← registry.store handle
  let (status, store) := store.findLeading key
  return (status, registry.withStore handle store)

def insert (registry : Registry) (handle : Handle) (record : Bytes) :
    Except StoreError Registry := do
  let store ← registry.store handle
  let store ← store.insertHere record
  return registry.withStore handle store

def update (registry : Registry) (handle : Handle) (record : Bytes) :
    Except StoreError Registry := do
  let store ← registry.store handle
  let store ← store.updateHere record
  return registry.withStore handle store

end Registry

end RecordFile
