import RecordFile.Session.Registry
import RecordFile.Store.Operation

/-! # Sessions

The files, the registry, the selections that share it, and the buffer that records are copied into.
A call is data, so a run is a list of calls.
-/

namespace RecordFile

/-! ## Calls -/

inductive Call
  | openStore (selection : Nat) (name : String) (basePath : Option String) (recordLength : UInt16)
  | close (selection : Nat) (handle : Handle)
  | select (selection : Nat) (handle : Handle)
  | restore (selection : Nat)
  | current (selection : Nat)
  | step (handle : Handle) (option : Step)
  | insert (handle : Handle) (record : Bytes)
  | update (handle : Handle) (record : Bytes)
  | seek (handle : Handle) (key : Bytes)
  | lookUp (handle : Handle) (key : Bytes) (number : UInt16) (option : Lookup)
  | onStore (handle : Handle) (operation : Store.Operation)
  deriving DecidableEq, Repr

inductive Reply
  | done
  | handle (handle : Handle)
  | status (status : Status)
  | closed (store : Store)
  deriving DecidableEq, Repr

/-! ## Sessions -/

structure Session where
  files : FileSystem
  registry : Registry
  selections : Nat → Selection
  destination : Bytes

namespace Session

def new (files : FileSystem) (settings : Settings) (destination : Bytes) : Session where
  files
  registry := .new settings
  selections _ := {}
  destination

def withSelection (session : Session) (number : Nat) (selection : Selection) : Session :=
  { session with
    selections := fun other => if other = number then selection else session.selections other }

/-- The outcome of a call that changes nothing when it fails. -/
def settle (session : Session) (outcome : Except StoreError (Reply × Session)) :
    Except StoreError Reply × Session :=
  match outcome with
  | .ok (reply, changed) => (.ok reply, changed)
  | .error error => (.error error, session)

def positioned (session : Session) (outcome : Except StoreError Status × Registry × Bytes) :
    Except StoreError Reply × Session :=
  let (result, registry, destination) := outcome
  (result.map .status, { session with registry, destination })

def onStore (session : Session) (handle : Handle) (operation : Store.Operation) :
    Except StoreError Reply × Session :=
  match session.registry.store handle with
  | .error error => (.error error, session)
  | .ok store =>
    let (result, store) := store.apply operation
    let reply := result.map fun status? =>
      match status? with
      | some status => Reply.status status
      | none => Reply.done
    (reply, { session with registry := session.registry.withStore handle store })

def run (session : Session) : Call → Except StoreError Reply × Session
  | .openStore number name basePath recordLength => session.settle do
    let (handle, registry, selection) ← session.registry.openStore session.files
      (session.selections number) name basePath recordLength
    return (.handle handle, { session with registry }.withSelection number selection)
  | .close number handle => session.settle do
    let (store, registry, selection) ← session.registry.close (session.selections number) handle
    return (.closed store, { session with registry }.withSelection number selection)
  | .select number handle => session.settle do
    let selection ← session.registry.select (session.selections number) handle
    return (.done, session.withSelection number selection)
  | .restore number =>
    (.ok .done, session.withSelection number (session.selections number).restore)
  | .current number => session.settle do
    let handle ← session.registry.current (session.selections number)
    return (.handle handle, session)
  | .step handle option =>
    session.positioned (session.registry.step handle option session.destination)
  | .insert handle record => session.settle do
    let registry ← session.registry.insert handle record
    return (.done, { session with registry })
  | .update handle record => session.settle do
    let registry ← session.registry.update handle record
    return (.done, { session with registry })
  | .seek handle key => session.settle do
    let (status, registry) ← session.registry.seek handle key
    return (.status status, { session with registry })
  | .lookUp handle key number option =>
    session.positioned (session.registry.lookUp handle key number option session.destination)
  | .onStore handle operation => session.onStore handle operation

/-! ## Exports -/

inductive ExportError
  | store (error : StoreError)
  | storage (error : StorageError)
  deriving DecidableEq, Repr

/-- None when the store has no image. -/
def exportStore (session : Session) (handle : Handle) (path : String) :
    Option (Except ExportError (Nat × Nat) × Session) :=
  match session.registry.store handle with
  | .error error => some (.error (.store error), session)
  | .ok store =>
    store.image?.map fun image =>
      let (result, files) := OpenFile.writeNew session.files path image
      (result.mapError .storage, { session with files })

end Session

end RecordFile
