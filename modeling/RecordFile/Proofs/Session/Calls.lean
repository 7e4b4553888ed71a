import RecordFile.Proofs.Session.Tables
import RecordFile.Proofs.Store.Cursors

/-! # What a call can do

A call that succeeds opens or closes a store, changes a selection, or asks one thing of one open
store. A step past the last record fails and moves the cursor.
-/

namespace RecordFile

/-! ## Whom a call is addressed to -/

namespace Call

/-- The open store that a call works on, and what it asks of it. -/
def request? : Call → Option (Handle × Store.Operation)
  | .step handle .first => some (handle, .stepFirst)
  | .step handle .next => some (handle, .stepNext)
  | .insert handle record => some (handle, .insertHere record)
  | .update handle record => some (handle, .updateHere record)
  | .seek handle key => some (handle, .findLeading key)
  | .lookUp handle key number .equal => some (handle, .findEqual number key)
  | .onStore handle operation => some (handle, operation)
  | _ => none

/-- Making a store current does not touch it. -/
def addressee? : Call → Option Handle
  | .close _ handle => some handle
  | call => call.request?.map (·.1)

end Call

/-! ## Registries -/

namespace Registry

variable {registry : Registry} {handle : Handle} {store : Store}

theorem store_eq_ok_iff : registry.store handle = .ok store ↔
    registry.stores.get? handle = some store := by
  unfold Registry.store
  cases registry.stores.get? handle <;> simp

theorem store_congr {registry other : Registry} {handle : Handle}
    (same : registry.stores.get? handle = other.stores.get? handle) :
    registry.store handle = other.store handle := by
  rw [Registry.store, Registry.store, same]

theorem store_withStore_of_ne {other : Handle} (apart : other ≠ handle) (registry : Registry)
    (store : Store) : (registry.withStore handle store).store other = registry.store other :=
  store_congr (HandleTable.get?_put_of_ne apart registry.stores store)

theorem withStore_eq_self (ordered : registry.stores.IsOrdered)
    (here : registry.store handle = .ok store) : registry.withStore handle store = registry := by
  rw [withStore, HandleTable.put_get? ordered (store_eq_ok_iff.mp here)]

def withOpened (registry : Registry) (store : Store) : Registry :=
  { registry.withStore ⟨registry.nextHandle⟩ store with nextHandle := registry.nextHandle + 1 }

def without (registry : Registry) (handle : Handle) : Registry :=
  { registry with stores := registry.stores.erase handle }

end Registry

/-! ## Transitions -/

namespace Session

/-- The call steps on in an open store. -/
def StepsOn (session : Session) (call : Call) : Prop :=
  ∃ handle store, call = .step handle .next ∧ session.registry.store handle = .ok store

/-- What a call answers and leaves behind. -/
inductive Transition (session : Session) : Call → Except StoreError Reply → Session → Prop
  | opened {number : Nat} {name : String} {basePath : Option String} {recordLength : UInt16}
      {store : Store} (free : session.registry.nextHandle ≠ 0)
      (read : Store.openNamed session.files name basePath recordLength session.registry.settings =
        .ok store) :
      Transition session (.openStore number name basePath recordLength)
        (.ok (.handle ⟨session.registry.nextHandle⟩))
        ({ session with registry := session.registry.withOpened store }.withSelection number
          ((session.selections number).activate ⟨session.registry.nextHandle⟩))
  | closed {number : Nat} {handle : Handle} {store : Store}
      (here : session.registry.store handle = .ok store) :
      Transition session (.close number handle) (.ok (.closed store))
        ({ session with registry := session.registry.without handle }.withSelection number
          ((session.selections number).forget handle))
  | selected {number : Nat} {handle : Handle} {store : Store}
      (here : session.registry.store handle = .ok store) :
      Transition session (.select number handle) (.ok .done)
        (session.withSelection number ((session.selections number).select handle))
  | restored {number : Nat} :
      Transition session (.restore number) (.ok .done)
        (session.withSelection number (session.selections number).restore)
  | told {number : Nat} {handle : Handle} {store : Store}
      (active : (session.selections number).active = some handle)
      (here : session.registry.store handle = .ok store) :
      Transition session (.current number) (.ok (.handle handle)) session
  | served {call : Call} {handle : Handle} {operation : Store.Operation} {store : Store}
      {reply : Reply} {buffer : Bytes} (asks : call.request? = some (handle, operation))
      (here : session.registry.store handle = .ok store) :
      Transition session call (.ok reply)
        { session.withStore handle (store.apply operation).2 with destination := buffer }
  | passedEnd {handle : Handle} {store : Store}
      (here : session.registry.store handle = .ok store)
      (outside : store.records.count ≤ store.stepNext.2.position) :
      Transition session (.step handle .next)
        (.error (.indexOutOfRange store.stepNext.2.position store.records.count))
        (session.withStore handle store.stepNext.2)
  | failed {call : Call} {error : StoreError} (still : ¬session.StepsOn call) :
      Transition session call (.error error) session

variable {session : Session} {handle : Handle} {store : Store} {call : Call}

theorem Transition.of_eq {answer : Except StoreError Reply} {after : Session}
    (ran : session.run call = (answer, after)) (h : Transition session call answer after) :
    Transition session call (session.run call).1 (session.run call).2 := by
  rw [ran]
  exact h

theorem Transition.of_error {error : StoreError} (still : ¬session.StepsOn call)
    (ran : session.run call = (.error error, session)) :
    Transition session call (session.run call).1 (session.run call).2 :=
  .of_eq ran (.failed still)

theorem Transition.of_reply {operation : Store.Operation} {reply : Reply} {buffer : Bytes}
    (asks : call.request? = some (handle, operation))
    (here : session.registry.store handle = .ok store)
    (ran : session.run call = (.ok reply,
      { session.withStore handle (store.apply operation).2 with destination := buffer })) :
    Transition session call (session.run call).1 (session.run call).2 :=
  .of_eq ran (.served asks here)

theorem not_stepsOn_of_unknown {error : StoreError} (addressed : call.addressee? = some handle)
    (unknown : session.registry.store handle = .error error) : ¬session.StepsOn call := by
  rintro ⟨handle, store, rfl, here⟩
  cases addressed
  cases unknown.symm.trans here

theorem run_unknown {error : StoreError} (addressed : call.addressee? = some handle)
    (unknown : session.registry.store handle = .error error) :
    session.run call = (.error error, session) := by
  cases call with
  | close | insert | update | seek =>
    cases addressed
    simp only [run, Registry.close, Registry.insert, Registry.update, Registry.seek, unknown]
    rfl
  | step _ option =>
    cases option <;>
    · cases addressed
      simp only [run, Registry.step, Registry.positionWith, unknown]
      rfl
  | lookUp _ _ _ option =>
    cases option
    cases addressed
    simp only [run, Registry.lookUp, Registry.positionWith, unknown]
    rfl
  | onStore =>
    cases addressed
    simp only [run, onStore, unknown]
  | _ => cases addressed

/-! ## Opening, closing and selecting -/

section Opening

variable (number : Nat) (name : String) (basePath : Option String) (recordLength : UInt16)

theorem run_openStore_exhausted (used : session.registry.nextHandle = 0) :
    session.run (.openStore number name basePath recordLength) =
      (.error .handlesExhausted, session) := by
  rw [run, Registry.openStore, if_pos used]
  rfl

theorem run_openStore (free : session.registry.nextHandle ≠ 0) :
    session.run (.openStore number name basePath recordLength) =
      session.settle ((Store.openNamed session.files name basePath recordLength
        session.registry.settings).map fun store =>
          (.handle ⟨session.registry.nextHandle⟩,
            { session with registry := session.registry.withOpened store }.withSelection number
              ((session.selections number).activate ⟨session.registry.nextHandle⟩))) := by
  rw [run, Registry.openStore, if_neg free]
  cases Store.openNamed session.files name basePath recordLength session.registry.settings <;> rfl

theorem transition_openStore (session : Session) :
    let call := Call.openStore number name basePath recordLength
    Transition session call (session.run call).1 (session.run call).2 := by
  have still : ¬session.StepsOn (.openStore number name basePath recordLength) := by
    rintro ⟨_, _, ⟨⟩, _⟩
  by_cases free : session.registry.nextHandle = 0
  · exact .of_error still (run_openStore_exhausted number name basePath recordLength free)
  · have ran := run_openStore number name basePath recordLength free
    cases read : Store.openNamed session.files name basePath recordLength
        session.registry.settings with
    | error error =>
      rw [read] at ran
      exact .of_error still ran
    | ok store =>
      rw [read] at ran
      exact .of_eq ran (.opened free read)

end Opening

theorem run_close (here : session.registry.store handle = .ok store) (number : Nat) :
    session.run (.close number handle) = (.ok (.closed store),
      { session with registry := session.registry.without handle }.withSelection number
        ((session.selections number).forget handle)) := by
  simp only [run, Registry.close, here]
  rfl

theorem transition_select (session : Session) (number : Nat) (handle : Handle) :
    let call := Call.select number handle
    Transition session call (session.run call).1 (session.run call).2 := by
  intro call
  have still : ¬session.StepsOn (.select number handle) := by rintro ⟨_, _, ⟨⟩, _⟩
  cases here : session.registry.store handle with
  | error error =>
    have ran : session.run call = (.error error, session) := by
      simp only [call, run, Registry.select, here]
      rfl
    exact .of_error still ran
  | ok store =>
    refine .of_eq ?_ (.selected here)
    simp only [call, run, Registry.select, here]
    rfl

theorem transition_current (session : Session) (number : Nat) :
    let call := Call.current number
    Transition session call (session.run call).1 (session.run call).2 := by
  intro call
  have still : ¬session.StepsOn (.current number) := by rintro ⟨_, _, ⟨⟩, _⟩
  cases active : (session.selections number).active with
  | none =>
    have ran : session.run call = (.error .noCurrentStore, session) := by
      simp only [call, run, Registry.current, active]
      rfl
    exact .of_error still ran
  | some handle =>
    cases here : session.registry.store handle with
    | error error =>
      have ran : session.run call = (.error error, session) := by
        simp only [call, run, Registry.current, active, here]
        rfl
      exact .of_error still ran
    | ok store =>
      refine .of_eq ?_ (.told active here)
      simp only [call, run, Registry.current, active, here]
      rfl

/-! ## Asking something of an open store -/

theorem exists_positioned (here : session.registry.store handle = .ok store)
    (move : Store → Status × Store)
    (readable : (move store).1 = .found → ∃ record, (move store).2.current = .ok record) :
    ∃ buffer, session.positioned (session.registry.positionWith handle move session.destination) =
      (.ok (.status (move store).1),
        { session.withStore handle (move store).2 with destination := buffer }) := by
  rcases moving : move store with ⟨status, moved⟩
  rw [moving] at readable
  cases status with
  | found =>
    obtain ⟨record, current⟩ := readable rfl
    exact ⟨record, positioned_found here moving current⟩
  | notFound => exact ⟨session.destination, positioned_notFound here moving⟩

theorem exists_run_stepFirst (here : session.registry.store handle = .ok store) :
    ∃ buffer, session.run (.step handle .first) = (.ok (.status store.stepFirst.1),
      { session.withStore handle store.stepFirst.2 with destination := buffer }) :=
  exists_positioned here _ fun found => Store.onRecord_iff.mp (Store.onRecord_stepFirst found)

theorem exists_run_lookUp (here : session.registry.store handle = .ok store) (key : Bytes)
    (number : UInt16) :
    ∃ buffer, session.run (.lookUp handle key number .equal) =
      (.ok (.status (store.findEqual number key).1),
        { session.withStore handle (store.findEqual number key).2 with destination := buffer }) :=
  exists_positioned here (·.findEqual number key)
    fun found => Store.onRecord_iff.mp (Store.onRecord_findEqual found)

theorem transition_stepNext (here : session.registry.store handle = .ok store) :
    let call := Call.step handle .next
    Transition session call (session.run call).1 (session.run call).2 := by
  have found : store.stepNext = (.found, store.stepNext.2) := rfl
  cases current : store.stepNext.2.current with
  | ok record => exact .of_reply rfl here (positioned_found here found current)
  | error error =>
    obtain ⟨outside, rfl⟩ := Store.current_eq_error_iff.mp current
    exact .of_eq (positioned_outside here found current) (.passedEnd here outside)

theorem transition_settle {operation : Store.Operation} {outcome : Except StoreError Store}
    (asks : call.request? = some (handle, operation))
    (here : session.registry.store handle = .ok store)
    (applied : store.apply operation = store.settle outcome)
    (ran : session.run call =
      session.settle (outcome.map (.done, session.withStore handle ·))) :
    Transition session call (session.run call).1 (session.run call).2 := by
  cases outcome with
  | error error =>
    have still : ¬session.StepsOn call := by
      rintro ⟨_, _, rfl, _⟩
      cases asks
      cases applied
    exact .of_eq ran (.failed still)
  | ok changed =>
    have stored : (store.apply operation).2 = changed := congrArg Prod.snd applied
    rw [← stored] at ran
    exact .of_reply asks here ran

theorem run_onStore (here : session.registry.store handle = .ok store)
    (operation : Store.Operation) :
    session.run (.onStore handle operation) =
      ((store.apply operation).1.map fun status? =>
        match status? with
        | some status => Reply.status status
        | none => Reply.done,
      session.withStore handle (store.apply operation).2) := by
  rw [run, onStore, here]
  rfl

theorem transition_onStore (ordered : session.registry.stores.IsOrdered)
    (here : session.registry.store handle = .ok store) (operation : Store.Operation) :
    let call := Call.onStore handle operation
    Transition session call (session.run call).1 (session.run call).2 := by
  have still : ¬session.StepsOn (.onStore handle operation) := by rintro ⟨_, _, ⟨⟩, _⟩
  have ran := run_onStore here operation
  cases outcome : (store.apply operation).1 with
  | error error =>
    have same : session.withStore handle store = session := by
      rw [withStore, Registry.withStore_eq_self ordered here]
    rw [outcome, Store.apply_eq_self_of_error outcome, same] at ran
    exact .of_eq ran (.failed still)
  | ok status? =>
    rw [outcome] at ran
    exact .of_reply rfl here ran

/-! ## Every call -/

theorem transition_run (ordered : session.registry.stores.IsOrdered) (call : Call) :
    Transition session call (session.run call).1 (session.run call).2 := by
  cases addressed : call.addressee? with
  | none =>
    -- The call opens a store or works on a selection.
    cases call with
    | openStore number name basePath recordLength =>
      exact transition_openStore number name basePath recordLength session
    | select number handle => exact session.transition_select number handle
    | restore number => exact .restored
    | current number => exact session.transition_current number
    | step _ option => cases option <;> cases addressed
    | lookUp _ _ _ option =>
      cases option
      cases addressed
    | _ => cases addressed
  | some handle =>
    cases here : session.registry.store handle with
    | error error =>
      exact .of_error (not_stepsOn_of_unknown addressed here) (run_unknown addressed here)
    | ok store =>
      cases call with
      | close number => cases addressed; exact .of_eq (run_close here number) (.closed here)
      | step _ option =>
        cases option with
        | first =>
          cases addressed
          obtain ⟨buffer, ran⟩ := exists_run_stepFirst here
          exact .of_reply rfl here ran
        | next => cases addressed; exact transition_stepNext here
      | insert _ record =>
        cases addressed
        exact transition_settle rfl here rfl (run_insert here record)
      | update _ record =>
        cases addressed
        exact transition_settle rfl here rfl (run_update here record)
      | seek _ key => cases addressed; exact .of_reply rfl here (run_seek here key)
      | lookUp _ key number option =>
        cases option
        cases addressed
        obtain ⟨buffer, ran⟩ := exists_run_lookUp here key number
        exact .of_reply rfl here ran
      | onStore _ operation => cases addressed; exact transition_onStore ordered here operation
      | _ => cases addressed

end Session

end RecordFile
