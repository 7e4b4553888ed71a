import RecordFile.Proofs.Session.Lineage

/-! # A cursor stays where records can be written

Once a call has found a record, the cursor of its store is on one until the store is closed or
stepped on to the next record.
-/

namespace RecordFile

/-! ## Calls that place a cursor -/

namespace Call

def searches? : Call → Option Handle
  | .step handle _ | .seek handle _ | .lookUp handle _ _ _ => some handle
  | _ => none

/-- It opened the store, or it stepped to the first record. -/
def Begins (handle : Handle) (call : Call) (answer : Except StoreError Reply) : Prop :=
  (answer = .ok (.handle handle) ∧ ∃ number name basePath recordLength,
    call = .openStore number name basePath recordLength) ∨
  (call.operationOn? handle = some .stepFirst ∧ ∃ status, answer = .ok (.status status))

/-- It neither steps on to the next record of the store nor closes it. -/
def Keeps (handle : Handle) (call : Call) : Prop :=
  call.operationOn? handle ≠ some .stepNext ∧ ∀ number, call ≠ .close number handle

end Call

namespace Session

variable {session : Session} {handle : Handle} {store : Store} {call : Call}
  {requests : List Request}

theorem exists_close_of_closed? {exchange : Exchange} (closes : exchange.closed? = some handle) :
    ∃ number, exchange.call = .close number handle := by
  unfold Exchange.closed? at closes
  split at closes
  · cases closes
    exact ⟨_, rfl⟩
  · cases closes

theorem not_mem_closedHandles (keep : ∀ request ∈ requests, request.call.Keeps handle) :
    handle ∉ closedHandles (session.exchanges requests) := by
  induction requests generalizing session with
  | nil => simp [exchanges, closedHandles]
  | cons request rest ih =>
    obtain ⟨keeps, others⟩ := List.forall_mem_cons.mp keep
    rw [exchanges, closedHandles_cons, List.mem_append, not_or]
    refine ⟨fun closed => ?_, ih others⟩
    obtain ⟨number, call⟩ := exists_close_of_closed? (Option.mem_toList.mp closed)
    exact keeps.2 number call

theorem stepNext_not_mem (keep : ∀ request ∈ requests, request.call.Keeps handle) :
    .stepNext ∉ operationsOn handle requests := by
  intro mem
  obtain ⟨request, here, asks⟩ := List.mem_filterMap.mp mem
  exact (keep request here).1 asks

/-! ## Where the cursor is at first -/

theorem onRecord_of_positioned (here : session.registry.store handle = .ok store)
    (move : Store → Status × Store)
    (found : (session.positioned (session.registry.positionWith handle move
      session.destination)).1 = .ok (.status .found)) : (move store).2.OnRecord := by
  rw [positioned_eq here] at found
  obtain ⟨status, copied, same⟩ := map_eq_ok_iff.mp found
  cases same
  unfold Registry.copyOut at copied
  rw [Store.onRecord_iff]
  cases current : (move store).2.current with
  | ok record => exact ⟨record, rfl⟩
  | error error =>
    rw [current] at copied
    cases moved : (move store).1 <;> simp [moved, Status.isFound] at copied

theorem onRecord_of_found (searches : call.searches? = some handle)
    (found : (session.run call).1 = .ok (.status .found)) :
    ∃ store, (session.run call).2.registry.store handle = .ok store ∧ store.OnRecord := by
  have addressed : call.addressee? = some handle := by
    cases call with
    | step _ option => cases option <;> exact searches
    | lookUp _ _ _ option => cases option; exact searches
    | seek => exact searches
    | _ => cases searches
  cases here : session.registry.store handle with
  | error error =>
    rw [run_unknown addressed here] at found
    cases found
  | ok store =>
    cases call with
    | step _ option =>
      cases option with
      | first =>
        cases searches
        exact ⟨_, store_positioned here Store.stepFirst,
          onRecord_of_positioned here Store.stepFirst found⟩
      | next =>
        cases searches
        exact ⟨_, store_positioned here Store.stepNext,
          onRecord_of_positioned here Store.stepNext found⟩
    | lookUp _ key number option =>
      cases option
      cases searches
      exact ⟨_, store_positioned here (·.findEqual number key),
        onRecord_of_positioned here (·.findEqual number key) found⟩
    | seek _ key =>
      cases searches
      rw [run_seek here] at found ⊢
      refine ⟨_, Registry.store_withStore _ _ _, Store.onRecord_findLeading ?_⟩
      simpa using found
    | _ => cases searches

theorem placed_of_begins (ordered : session.registry.stores.IsOrdered)
    (begins : call.Begins handle (session.run call).1) :
    ∃ store, (session.run call).2.registry.store handle = .ok store ∧ store.Placed := by
  rcases begins with ⟨answer, number, name, basePath, recordLength, rfl⟩ | ⟨asks, status, answer⟩
  · have moved := transition_run ordered (.openStore number name basePath recordLength)
    rw [answer] at moved
    obtain ⟨first, read, there⟩ := moved.exists_opened
    obtain ⟨_, opened⟩ := Store.exists_openFrom_of_openNamed read
    obtain ⟨-, -, -, -, -, cursor⟩ := Store.settled_of_openFrom opened
    exact ⟨first, there, .inl (congrArg Cursor.position cursor)⟩
  · have request := Call.operationOn?_eq_some_iff.mp asks
    cases here : session.registry.store handle with
    | error error =>
      rw [run_unknown (Call.addressee?_of_request? request) here] at answer
      cases answer
    | ok store => exact ⟨_, store_run_of_request request here, .inl rfl⟩

/-! ## What can be written there -/

/-- A record can be written at the cursor. -/
structure Writable (session : Session) (handle : Handle) (store : Store) : Prop where
  here : session.registry.store handle = .ok store
  count_eq : store.count.toNat = store.records.count
  position_le : store.position ≤ store.records.count
  update : ∀ record, record.length = store.recordLength.toNat →
    (session.run (.update handle record)).1 = .ok .done ∧
    (store.records.count = 0 → ∃ changed,
      (session.run (.update handle record)).2.registry.store handle = .ok changed ∧
      changed.records.rows = [record])
  insert : ∀ record, record.length = store.recordLength.toNat →
    (session.run (.insert handle record)).1 =
      if store.records.count < 65535 then .ok .done else .error .storeFull

structure Readable (session : Session) (handle : Handle) (store : Store) : Prop
    extends Writable session handle store where
  position_lt : store.position < store.records.count
  current : ∃ record, store.current = .ok record

theorem writable_of_placed (reachable : session.registry.Reachable)
    (here : session.registry.store handle = .ok store) (placed : store.Placed) :
    Writable session handle store := by
  have follows := reachable.follows here
  refine {
    here
    count_eq := follows.count_toNat
    position_le := placed.position_le
    update := ?_
    insert := ?_ }
  · intro record fits
    rw [← follows.rowLength_eq] at fits
    obtain ⟨records, updated, first⟩ := placed.exists_updateHere fits
    rw [run_update here, updated]
    refine ⟨rfl, fun empty => ?_⟩
    exact ⟨_, Registry.store_withStore _ _ _, first empty⟩
  · intro record fits
    rw [← follows.rowLength_eq] at fits
    rw [run_insert here]
    split
    · next room =>
      obtain ⟨records, inserted, -⟩ := Store.exists_insertHere placed.position_le fits room
      rw [inserted]
      rfl
    · next full =>
      rw [Store.insertHere_full placed.position_le fits (Nat.le_of_not_lt full)]
      rfl

/-! ## Runs -/

/-- A found record stays readable, and a beginning writable, until the store is stepped on. -/
theorem cursor_serveAll (reachable : session.registry.Reachable) (handle : Handle) :
    (∀ requests store after, session.registry.store handle = .ok store →
      (session.serveAll requests).registry.store handle = .ok after →
      store.count.toNat ≤ after.count.toNat ∧ store.records.count ≤ after.records.count) ∧
    (∀ request later, request.call.searches? = some handle →
      (session.serve request).1 = .ok (.status .found) →
      (∀ next ∈ later, next.call.Keeps handle) →
      ∃ store, Readable ((session.serve request).2.serveAll later) handle store) ∧
    ∀ request later, request.call.Begins handle (session.serve request).1 →
      (∀ next ∈ later, next.call.Keeps handle) →
      ∃ store, Writable ((session.serve request).2.serveAll later) handle store := by
  have served : ∀ request, (session.serve request).2.registry.Reachable := fun request =>
    reachable_serveAll reachable [request]
  refine ⟨?_, ?_, ?_⟩
  · -- The handle was not closed, so the store is the same one after its own operations.
    intro requests store after here there
    have kept := ((isOpen_serveAll_iff reachable.isSound requests handle).mp ⟨after, there⟩).2
    have follows := reachable.follows here
    have followsLater := (reachable_serveAll reachable requests).follows there
    rw [store_serveAll reachable.isSound here kept] at there
    cases there
    rw [follows.count_toNat, followsLater.count_toNat, and_self]
    exact store.le_count_run _
  · intro request later searches found keep
    obtain ⟨store, here, onRecord⟩ := onRecord_of_found searches found
    have there := store_serveAll (served request).isSound here (not_mem_closedHandles keep)
    have stays := onRecord.run (stepNext_not_mem keep)
    have reached := reachable_serveAll (served request) later
    exact ⟨_, {
      writable_of_placed reached there (.inr stays) with
      position_lt := stays
      current := Store.onRecord_iff.mp stays }⟩
  · -- At a beginning there may be no record yet, but the first one can be made there.
    intro request later begins keep
    have ordered : (session.given request).registry.stores.IsOrdered := reachable.isSound.ordered
    obtain ⟨store, here, placed⟩ := placed_of_begins ordered begins
    have there := store_serveAll (served request).isSound here (not_mem_closedHandles keep)
    have reached := reachable_serveAll (served request) later
    exact ⟨_, writable_of_placed reached there (placed.run (stepNext_not_mem keep))⟩

def sampleRequest (call : Call) : Request := ⟨.empty [], [], call⟩

def sampleFilled : Session := sampleOpened.serveAll [sampleRequest (.insert ⟨1⟩ [65, 66])]

def sampleLater : List Request :=
  [.insert ⟨1⟩ [67, 68], .seek ⟨1⟩ [90], .update ⟨1⟩ [0]].map sampleRequest

theorem cursor_serveAll_sample :
    let step := sampleRequest (.step ⟨1⟩ .first)
    sampleFilled.registry.Reachable ∧
      step.call.searches? = some ⟨1⟩ ∧
      (sampleFilled.serve step).1 = .ok (.status .found) ∧
      step.call.Begins ⟨1⟩ (sampleOpened.serve step).1 ∧
      (∀ next ∈ sampleLater, next.call.Keeps ⟨1⟩) ∧
      (∃ store, Readable ((sampleFilled.serve step).2.serveAll sampleLater) ⟨1⟩ store) ∧
      ∃ store, Writable ((sampleOpened.serve step).2.serveAll sampleLater) ⟨1⟩ store := by
  intro step
  have reachable : sampleFilled.registry.Reachable := reachable_serveAll reachable_sampleOpened _
  have keep : ∀ next ∈ sampleLater, next.call.Keeps ⟨1⟩ := by
    intro next mem
    simp only [sampleLater, List.map_cons, List.map_nil, List.mem_cons, List.not_mem_nil,
      or_false] at mem
    rcases mem with rfl | rfl | rfl <;> exact ⟨by decide, fun _ closes => by cases closes⟩
  have found : (sampleFilled.serve step).1 = .ok (.status .found) := rfl
  have begins : step.call.Begins ⟨1⟩ (sampleOpened.serve step).1 :=
    .inr ⟨rfl, .notFound, rfl⟩
  obtain ⟨-, searched, -⟩ := cursor_serveAll reachable ⟨1⟩
  obtain ⟨-, -, began⟩ := cursor_serveAll reachable_sampleOpened ⟨1⟩
  exact ⟨reachable, rfl, found, begins, keep, searched step sampleLater rfl found keep,
    began step sampleLater begins keep⟩

end Session

end RecordFile
