import RecordFile.Store.Basic

/-! # Operations on a store

What can be asked of a store, as data. An operation that fails leaves the store as it was.
-/

namespace RecordFile.Store

inductive Operation
  | insert (index : Nat) (data : Bytes)
  | insertHere (data : Bytes)
  | update (index : Nat) (data : Bytes)
  | updateHere (data : Bytes)
  | stepFirst
  | stepNext
  | findLeading (sought : Bytes)
  | findEqual (number : UInt16) (sought : Bytes)
  | defineKey (number length : UInt16) (data : Bytes)
  deriving DecidableEq, Repr

/-- A changed store, or the error and the store as it was. -/
def settle (store : Store) : Except StoreError Store → Except StoreError (Option Status) × Store
  | .ok changed => (.ok none, changed)
  | .error error => (.error error, store)

def positioned (moved : Status × Store) : Except StoreError (Option Status) × Store :=
  (.ok (some moved.1), moved.2)

/-- Only positioning operations report a status. -/
def apply (store : Store) : Operation → Except StoreError (Option Status) × Store
  | .insert index data => store.settle (store.insert index data)
  | .insertHere data => store.settle (store.insertHere data)
  | .update index data => store.settle (store.update index data)
  | .updateHere data => store.settle (store.updateHere data)
  | .stepFirst => positioned store.stepFirst
  | .stepNext => positioned store.stepNext
  | .findLeading sought => positioned (store.findLeading sought)
  | .findEqual number sought => positioned (store.findEqual number sought)
  | .defineKey number length data => store.settle (store.defineKey number length data)

/-- The store after a run of operations, whatever they report. -/
def run (store : Store) (operations : List Operation) : Store :=
  operations.foldl (fun store operation => (store.apply operation).2) store

end RecordFile.Store
