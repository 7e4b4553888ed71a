import RecordFile.Model.Basic
import RecordFile.Session.Sandbox

/-! # The registry beside the model

The same calls go to a registry with one new store and to the model, as long as both agree on the
answer, on what is copied out and on the store.
-/

namespace RecordFile

structure Comparison where
  session : Session
  handle : Handle
  model : Model

namespace Comparison

def storeName : String := "MODEL.DAT"

def new? (recordLength : UInt16) : Option Comparison :=
  (Sandbox.withStore? (Sandbox.new {} []) storeName recordLength).map fun (handle, session) =>
    { session, handle, model := { recordLength := recordLength.toNat } }

def callOf (handle : Handle) : Model.Operation → Call
  | .insert record => .insert handle record
  | .update record => .update handle record
  | .stepFirst => .step handle .first
  | .stepNext => .step handle .next
  | .seek key => .seek handle key
  | .lookUp key number => .lookUp handle key number .equal

def replyOf (answer : Model.Answer) : Reply :=
  match answer.status? with
  | some status => .status status
  | none => .done

/-- Both sides succeed or fail alike, and not because the store is full. -/
def sameAnswer : Except StoreError Reply → Except StoreError Model.Answer → Bool
  | .ok reply, .ok answer => reply == replyOf answer
  | .error error, .error expected => error == expected && error != .storeFull
  | _, _ => false

def copiedBy : Except StoreError Model.Answer → Bytes
  | .ok answer => answer.copied?.getD []
  | .error _ => []

def agrees (model : Model) (store : Store) : Bool :=
  store.records.rows == model.rows && store.count.toNat == model.rows.length &&
    store.position == model.position

/-- None when the two disagree, or when the store is full. -/
def step? (comparison : Comparison) (operation : Model.Operation) : Option Comparison :=
  let session := { comparison.session with destination := [] }
  let (reply, session) := session.run (callOf comparison.handle operation)
  let (answer, model) := comparison.model.apply operation
  match session.registry.store comparison.handle with
  | .error _ => none
  | .ok store =>
    if sameAnswer reply answer && session.destination == copiedBy answer &&
        agrees model store then
      some { comparison with session, model }
    else none

end Comparison

end RecordFile
