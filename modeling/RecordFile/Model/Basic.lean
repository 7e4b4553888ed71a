import RecordFile.Bytes
import RecordFile.Store.Fault
import RecordFile.Store.Positioning

/-! # The plain model of a store

A list of rows and a position, with the rules of the registry's record calls said on them
directly. The registry is compared with it.
-/

namespace RecordFile

structure Model where
  recordLength : Nat
  rows : List Bytes := []
  position : Nat := 0
  deriving DecidableEq, Repr

namespace Model

/-! ## Calls -/

inductive Operation
  | insert (record : Bytes)
  | update (record : Bytes)
  | stepFirst
  | stepNext
  | seek (key : Bytes)
  | lookUp (key : Bytes) (number : UInt16)
  deriving DecidableEq, Repr

structure Answer where
  status? : Option Status := none
  copied? : Option Bytes := none
  deriving DecidableEq, Repr

def indexOfKey? (key : Bytes) : List Bytes → Option Nat
  | [] => none
  | row :: rest =>
    if row.take key.length = key then some 0 else (indexOfKey? key rest).map (· + 1)

def insert (model : Model) (record : Bytes) : Except StoreError Model :=
  if record.length ≠ model.recordLength then
    .error (.lengthMismatch model.recordLength record.length)
  else if model.rows.length < model.position then
    .error (.indexOutOfRange model.position model.rows.length)
  else if model.rows.length = maxRecords then .error .storeFull
  else
    .ok { model with
      rows := model.rows.take model.position ++ record :: model.rows.drop model.position }

def update (model : Model) (record : Bytes) : Except StoreError Model :=
  if record.length ≠ model.recordLength then
    .error (.lengthMismatch model.recordLength record.length)
  else if model.rows = [] ∧ model.position = 0 then .ok { model with rows := [record] }
  else if model.position < model.rows.length then
    .ok { model with
      rows := model.rows.take model.position ++ record :: model.rows.drop (model.position + 1) }
  else .error (.indexOutOfRange model.position model.rows.length)

def stepFirst (model : Model) : Answer × Model :=
  let answer : Answer :=
    match model.rows with
    | [] => { status? := some .notFound }
    | row :: _ => { status? := some .found, copied? := some row }
  (answer, { model with position := 0 })

def stepNext (model : Model) : Except StoreError Answer × Model :=
  let position := min (model.position + 1) Cursor.maxPosition
  let result :=
    match model.rows[position]? with
    | some row => .ok { status? := some .found, copied? := some row }
    | none => .error (.indexOutOfRange position model.rows.length)
  (result, { model with position })

def seek (model : Model) (key : Bytes) : Answer × Model :=
  match indexOfKey? key model.rows with
  | some index => ({ status? := some .found }, { model with position := index })
  | none => ({ status? := some .notFound }, model)

/-- Without keys the key number does not matter. -/
def lookUp (model : Model) (key : Bytes) : Answer × Model :=
  match indexOfKey? key model.rows with
  | some index =>
    ({ status? := some .found, copied? := model.rows[index]? }, { model with position := index })
  | none => ({ status? := some .notFound }, model)

def settle (model : Model) : Except StoreError Model → Except StoreError Answer × Model
  | .ok changed => (.ok {}, changed)
  | .error error => (.error error, model)

def apply (model : Model) : Operation → Except StoreError Answer × Model
  | .insert record => model.settle (model.insert record)
  | .update record => model.settle (model.update record)
  | .stepFirst => (.ok model.stepFirst.1, model.stepFirst.2)
  | .stepNext => model.stepNext
  | .seek key => (.ok (model.seek key).1, (model.seek key).2)
  | .lookUp key _ => (.ok (model.lookUp key).1, (model.lookUp key).2)

end Model

end RecordFile
