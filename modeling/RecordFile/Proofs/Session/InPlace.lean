import RecordFile.Proofs.Session.Calls
import RecordFile.Proofs.Store.InPlace

/-! # Calls in place

The table, the open stores, the selections and the buffer are changed where they stand, in the order
in which a call gets to them.
-/

namespace RecordFile.InPlace

open Steps

/-! ## Parts of a session -/

def select (number : Nat) (change : Selection → Selection) : Steps Session Unit :=
  modify fun session => session.withSelection number (change (session.selections number))

def atStore {α : Type} (handle : Handle) (steps : Steps Store α) : Steps Session α := do
  let store ← ofExcept ((← get).registry.store handle)
  within (fun _ => store) (·.withStore handle) steps

def copyOut (handle : Handle) (status : Status) : Steps Session Unit := do
  if status.isFound then
    let record ← ofExcept (((← get).registry.store handle).bind Store.current)
    -- The buffer is emptied only now that there is a record to copy.
    modify ({ · with destination := [] })
    modify fun session => { session with destination := session.destination ++ record }

def position (handle : Handle) (move : Store → Status × Store) : Steps Session Reply := do
  let status ← atStore handle (modifyGet move)
  copyOut handle status
  return .status status

/-! ## Calls -/

def openStore (number : Nat) (name : String) (basePath : Option String) (recordLength : UInt16) :
    Steps Session Reply := do
  let session ← get
  if session.registry.nextHandle = 0 then
    throw .handlesExhausted
  let store ← ofExcept
    (Store.openNamed session.files name basePath recordLength session.registry.settings)
  let handle : Handle := ⟨session.registry.nextHandle⟩
  modify fun session =>
    { session with registry.nextHandle := session.registry.nextHandle + 1 }
  modify (·.withStore handle store)
  select number (·.activate handle)
  return .handle handle

def close (number : Nat) (handle : Handle) : Steps Session Reply := do
  let removed? := (← get).registry.stores.get? handle
  -- The table is changed before it is known whether the handle was open.
  modify fun session => { session with registry := session.registry.without handle }
  match removed? with
  | some store =>
    select number (·.forget handle)
    return .closed store
  | none => throw (.unknownHandle handle.value.toNat)

def current (number : Nat) : Steps Session Reply := do
  match ((← get).selections number).active with
  | some handle =>
    let _ ← ofExcept ((← get).registry.store handle)
    return .handle handle
  | none => throw .noCurrentStore

def replyOf : Option Status → Reply
  | some status => .status status
  | none => .done

def run : Call → Steps Session Reply
  | .openStore number name basePath recordLength => openStore number name basePath recordLength
  | .close number handle => close number handle
  | .select number handle => do
    let _ ← ofExcept ((← get).registry.store handle)
    select number (·.select handle)
    return .done
  | .restore number => do
    select number Selection.restore
    return .done
  | .current number => current number
  | .step handle .first => position handle Store.stepFirst
  | .step handle .next => position handle Store.stepNext
  | .insert handle record => do return replyOf (← atStore handle (apply (.insertHere record)))
  | .update handle record => do return replyOf (← atStore handle (apply (.updateHere record)))
  | .seek handle key => do return replyOf (← atStore handle (apply (.findLeading key)))
  | .lookUp handle key number .equal => position handle (·.findEqual number key)
  | .onStore handle operation => do return replyOf (← atStore handle (apply operation))

/-! ## The same calls -/

variable {session : Session} {handle : Handle} {store : Store}

theorem atStore_eq {α : Type} (here : session.registry.store handle = .ok store)
    (steps : Steps Store α) :
    atStore handle steps session =
      ((steps store).1, session.withStore handle (steps store).2) := by
  simp only [atStore, bind_eq, get_eq, ofExcept_eq, here]
  rfl

theorem atStore_unknown {α : Type} {error : StoreError}
    (unknown : session.registry.store handle = .error error) (steps : Steps Store α) :
    atStore handle steps session = (.error error, session) := by
  simp only [atStore, bind_eq, get_eq, ofExcept_eq, unknown]

theorem copyOut_found (here : session.registry.store handle = .ok store) :
    copyOut handle .found session =
      match store.current with
      | .ok record => (.ok (), { session with destination := record })
      | .error error => (.error error, session) := by
  rw [copyOut, if_pos (show Status.found.isFound = true from rfl)]
  simp only [bind_eq, get_eq, ofExcept_eq, here, Except.bind]
  cases store.current <;> rfl

theorem position_eq (handle : Handle) (move : Store → Status × Store) (session : Session) :
    position handle move session =
      session.positioned (session.registry.positionWith handle move session.destination) := by
  cases here : session.registry.store handle with
  | error error =>
    simp only [position, bind_eq, atStore_unknown here, Registry.positionWith, here]
    rfl
  | ok store =>
    rcases moving : move store with ⟨status, moved⟩
    simp only [position, bind_eq, atStore_eq here, modifyGet_eq, moving]
    cases status with
    | notFound => exact (Session.positioned_notFound here moving).symm
    | found =>
      have there : (session.withStore handle moved).registry.store handle = .ok moved :=
        Registry.store_withStore _ _ _
      rw [copyOut_found there]
      cases record : moved.current with
      | error error => exact (Session.positioned_outside here moving record).symm
      | ok record => exact (Session.positioned_found here moving record).symm

theorem openStore_eq (number : Nat) (name : String) (basePath : Option String)
    (recordLength : UInt16) (session : Session) :
    openStore number name basePath recordLength session =
      session.run (.openStore number name basePath recordLength) := by
  unfold openStore
  simp only [bind_eq, get_eq]
  by_cases used : session.registry.nextHandle = 0
  · rw [if_pos used, Session.run_openStore_exhausted number name basePath recordLength used]
    rfl
  · rw [if_neg used, Session.run_openStore number name basePath recordLength used]
    simp only [bind_eq, pure_eq, ofExcept_eq]
    cases Store.openNamed session.files name basePath recordLength session.registry.settings <;> rfl

theorem without_of_unknown {registry : Registry} (absent : registry.stores.get? handle = none) :
    registry.without handle = registry := by
  have kept : ∀ entry ∈ registry.stores.entries, (entry.1 != handle) = true := by
    simpa [HandleTable.get?] using absent
  rw [Registry.without, HandleTable.erase, List.filter_eq_self.mpr kept]

theorem close_eq (number : Nat) (handle : Handle) (session : Session) :
    close number handle session = session.run (.close number handle) := by
  unfold close
  simp only [bind_eq, get_eq, modify_eq]
  cases held : session.registry.stores.get? handle with
  | none =>
    have unknown : session.registry.store handle = .error (.unknownHandle handle.value.toNat) := by
      rw [Registry.store, held]
    rw [Session.run_unknown rfl unknown, without_of_unknown held]
    rfl
  | some store =>
    rw [Session.run_close (Registry.store_eq_ok_iff.mpr held)]
    rfl

theorem current_eq (number : Nat) (session : Session) :
    current number session = session.run (.current number) := by
  unfold current Session.run Registry.current
  simp only [bind_eq, get_eq]
  cases (session.selections number).active with
  | none => rfl
  | some handle =>
    simp only [bind_eq, get_eq, ofExcept_eq]
    cases session.registry.store handle <;> rfl

theorem apply_eq_onStore (handle : Handle) (operation : Store.Operation) (session : Session) :
    (do return replyOf (← atStore handle (apply operation)) : Steps Session Reply) session =
      session.onStore handle operation := by
  rw [Session.onStore]
  cases here : session.registry.store handle with
  | error error =>
    simp only [bind_eq, atStore_unknown here]
  | ok store =>
    simp only [bind_eq, atStore_eq here, apply_eq]
    rcases store.apply operation with ⟨_ | status?, changed⟩
    · rfl
    · cases status? <;> rfl

theorem onStore_eq_settle {call : Call} {operation : Store.Operation}
    {outcome : Store → Except StoreError Store} (ordered : session.registry.stores.IsOrdered)
    (addressed : call.addressee? = some handle)
    (applied : ∀ store : Store, store.apply operation = store.settle (outcome store))
    (ran : ∀ store, session.registry.store handle = .ok store →
      session.run call =
        session.settle ((outcome store).map (.done, session.withStore handle ·))) :
    session.onStore handle operation = session.run call := by
  cases here : session.registry.store handle with
  | error error =>
    rw [Session.run_unknown addressed here, Session.onStore, here]
  | ok store =>
    rw [ran store here, Session.onStore, here]
    simp only [applied]
    cases outcome store with
    | error error =>
      -- The store goes back into the table as it was.
      have same := Registry.withStore_eq_self ordered here
      simp only [Store.settle, same]
      rfl
    | ok changed => rfl

theorem onStore_findLeading (handle : Handle) (key : Bytes) (session : Session) :
    session.onStore handle (.findLeading key) = session.run (.seek handle key) := by
  cases here : session.registry.store handle with
  | error error => rw [Session.run_unknown rfl here, Session.onStore, here]
  | ok store =>
    rw [Session.run_seek here, Session.onStore, here]
    rfl

theorem run_eq (ordered : session.registry.stores.IsOrdered) (call : Call) :
    run call session = session.run call := by
  cases call with
  | openStore number name basePath recordLength =>
    exact openStore_eq number name basePath recordLength session
  | close number handle => exact close_eq number handle session
  | select number handle =>
    simp only [run, bind_eq, get_eq, ofExcept_eq, Session.run, Registry.select]
    cases session.registry.store handle <;> rfl
  | restore number => rfl
  | current number => exact current_eq number session
  | step handle option => cases option <;> exact position_eq handle _ session
  | insert handle record =>
    refine (apply_eq_onStore handle (.insertHere record) session).trans ?_
    exact onStore_eq_settle ordered rfl (fun _ => rfl) fun _ here => Session.run_insert here record
  | update handle record =>
    refine (apply_eq_onStore handle (.updateHere record) session).trans ?_
    exact onStore_eq_settle ordered rfl (fun _ => rfl) fun _ here => Session.run_update here record
  | seek handle key =>
    exact (apply_eq_onStore handle (.findLeading key) session).trans
      (onStore_findLeading handle key session)
  | lookUp handle key number option =>
    cases option
    exact position_eq handle _ session
  | onStore handle operation => exact apply_eq_onStore handle operation session

end RecordFile.InPlace
