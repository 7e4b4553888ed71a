import RecordFile.Proofs.Store.Opening
import RecordFile.Session.Basic

/-! # Open stores of a session -/

namespace RecordFile

namespace HandleTable

variable {α : Type}

theorem find?_putEntry_self (handle : Handle) (value : α) (entries : List (Handle × α)) :
    (putEntry handle value entries).find? (·.1 == handle) = some (handle, value) := by
  induction entries with
  | nil => simp [putEntry]
  | cons entry rest ih =>
    unfold putEntry
    split
    · simp
    · next other =>
      split
      · simp
      · rw [List.find?_cons_of_neg (by simpa using Ne.symm other), ih]

@[simp] theorem get?_put_self (table : HandleTable α) (handle : Handle) (value : α) :
    (table.put handle value).get? handle = some value := by
  rw [get?, put, find?_putEntry_self]
  rfl

end HandleTable

namespace Registry

@[simp] theorem store_withStore (registry : Registry) (handle : Handle) (store : Store) :
    (registry.withStore handle store).store handle = .ok store := by
  simp [Registry.store, withStore]

end Registry

/-! ## Calls on an open store -/

namespace Session

variable {session : Session} {handle : Handle} {store : Store}

def withStore (session : Session) (handle : Handle) (store : Store) : Session :=
  { session with registry := session.registry.withStore handle store }

theorem run_insert (here : session.registry.store handle = .ok store) (record : Bytes) :
    session.run (.insert handle record) =
      session.settle ((store.insertHere record).map (.done, session.withStore handle ·)) := by
  rw [run, Registry.insert, here]
  simp only [bind, Except.bind]
  cases store.insertHere record <;> rfl

theorem run_update (here : session.registry.store handle = .ok store) (record : Bytes) :
    session.run (.update handle record) =
      session.settle ((store.updateHere record).map (.done, session.withStore handle ·)) := by
  rw [run, Registry.update, here]
  simp only [bind, Except.bind]
  cases store.updateHere record <;> rfl

theorem run_seek (here : session.registry.store handle = .ok store) (key : Bytes) :
    session.run (.seek handle key) =
      (.ok (.status (store.findLeading key).1),
        session.withStore handle (store.findLeading key).2) := by
  rw [run, Registry.seek, here]
  rfl

variable {move : Store → Status × Store} {moved : Store}

theorem positioned_found {record : Bytes} (here : session.registry.store handle = .ok store)
    (found : move store = (.found, moved)) (current : moved.current = .ok record) :
    session.positioned (session.registry.positionWith handle move session.destination) =
      (.ok (.status .found), { session.withStore handle moved with destination := record }) := by
  rw [Registry.positionWith, here]
  simp only [found, Registry.copyOut, Status.isFound, if_true, current]
  rfl

theorem positioned_outside {error : StoreError} (here : session.registry.store handle = .ok store)
    (found : move store = (.found, moved)) (outside : moved.current = .error error) :
    session.positioned (session.registry.positionWith handle move session.destination) =
      (.error error, session.withStore handle moved) := by
  rw [Registry.positionWith, here]
  simp only [found, Registry.copyOut, Status.isFound, if_true, outside]
  rfl

theorem positioned_notFound (here : session.registry.store handle = .ok store)
    (lost : move store = (.notFound, moved)) :
    session.positioned (session.registry.positionWith handle move session.destination) =
      (.ok (.status .notFound), session.withStore handle moved) := by
  rw [Registry.positionWith, here]
  simp only [lost]
  rfl

end Session

end RecordFile
