import RecordFile.Proofs.Session.Cursors

/-! # Reading a store from end to end

The step after the last record leaves the cursor right behind the records: nothing can be read
there, but a record can be appended.
-/

namespace RecordFile

def Call.scan (handle : Handle) (count : Nat) : List Call :=
  .step handle .first :: List.replicate (count - 1) (.step handle .next)

namespace Session

variable {session : Session} {handle : Handle} {store : Store} {index : Nat}
  {requests : List Request}

/-! ## One step -/

/-- The buffer holds the record under the cursor. -/
structure Visits (session : Session) (handle : Handle) (store : Store) (index : Nat) : Prop where
  here : session.registry.store handle = .ok (store.movedTo index)
  copied : store.records.rows[index]? = some session.destination

theorem visits_positioned {held : Store} {move : Store → Status × Store}
    (here : session.registry.store handle = .ok held)
    (moves : move held = (.found, store.movedTo index)) (inside : index < store.records.count) :
    let moved := session.positioned
      (session.registry.positionWith handle move session.destination)
    moved.1 = .ok (.status .found) ∧ Visits moved.2 handle store index := by
  have row : store.records.rows[index]? = some store.records.rows[index] :=
    List.getElem?_eq_getElem inside
  rw [positioned_found here moves (Store.current_eq_ok_iff.mpr row)]
  exact ⟨rfl, Registry.store_withStore _ _ _, row⟩

theorem visits_stepFirst (here : session.registry.store handle = .ok store)
    (filled : 0 < store.records.count) :
    let stepped := session.run (.step handle .first)
    stepped.1 = .ok (.status .found) ∧ Visits stepped.2 handle store 0 :=
  visits_positioned here (Store.stepFirst_of_pos filled) filled

theorem visits_stepNext (here : session.registry.store handle = .ok (store.movedTo index))
    (inside : index + 1 < store.records.count) (few : store.records.count ≤ maxRecords) :
    let stepped := session.run (.step handle .next)
    stepped.1 = .ok (.status .found) ∧ Visits stepped.2 handle store (index + 1) :=
  visits_positioned here (store.stepNext_movedTo (by omega)) inside

/-! ## Runs -/

theorem visits_serveAll (here : session.registry.store handle = .ok (store.movedTo index))
    (steps : ∀ request ∈ requests, request.call = .step handle .next)
    (inside : index + requests.length < store.records.count)
    (few : store.records.count ≤ maxRecords) :
    (∀ exchange ∈ session.exchanges requests, exchange.answer = .ok (.status .found)) ∧
      ∀ i < requests.length,
        Visits (session.serveAll (requests.take (i + 1))) handle store (index + (i + 1)) := by
  induction requests generalizing session index with
  | nil => exact ⟨by simp [exchanges], by simp⟩
  | cons request rest ih =>
    obtain ⟨step, others⟩ := List.forall_mem_cons.mp steps
    rw [List.length_cons] at inside ⊢
    have found : (session.given request).registry.store handle = .ok (store.movedTo index) := here
    obtain ⟨answer, visits⟩ := visits_stepNext found (by omega) few
    rw [← step] at answer visits
    obtain ⟨answers, later⟩ := ih visits.here others (by omega)
    refine ⟨List.forall_mem_cons.mpr ⟨answer, answers⟩, ?_⟩
    intro i within
    cases i with
    | zero => exact visits
    | succ i =>
      rw [List.take_succ_cons, serveAll_cons, Nat.add_comm (i + 1) 1, ← Nat.add_assoc]
      exact later i (by omega)

/-- Steps go on past the end, up to the last position there is. -/
theorem store_serveAll_steps (here : session.registry.store handle = .ok (store.movedTo index))
    (steps : ∀ request ∈ requests, request.call = .step handle .next)
    (inside : index ≤ Cursor.maxPosition) :
    (session.serveAll requests).registry.store handle =
      .ok (store.movedTo (min (index + requests.length) Cursor.maxPosition)) := by
  induction requests generalizing session index with
  | nil => rw [List.length_nil, Nat.add_zero, Nat.min_eq_left inside]; exact here
  | cons request rest ih =>
    obtain ⟨step, others⟩ := List.forall_mem_cons.mp steps
    have found : (session.given request).registry.store handle = .ok (store.movedTo index) := here
    have asks : request.call.request? = some (handle, .stepNext) := by rw [step]; rfl
    have next : (session.serve request).2.registry.store handle =
        .ok (store.movedTo (min (index + 1) Cursor.maxPosition)) := store_run_of_request asks found
    have sum : min (min (index + 1) Cursor.maxPosition + rest.length) Cursor.maxPosition =
        min (index + (rest.length + 1)) Cursor.maxPosition := by omega
    rw [serveAll_cons, ih next others (Nat.min_le_right _ _), sum, List.length_cons]

theorem visits_scan (here : session.registry.store handle = .ok store)
    (filled : 0 < store.records.count) (few : store.records.count ≤ maxRecords)
    (scans : requests.map (·.call) = Call.scan handle store.records.count) :
    (∀ exchange ∈ session.exchanges requests, exchange.answer = .ok (.status .found)) ∧
      ∀ index < store.records.count,
        Visits (session.serveAll (requests.take (index + 1))) handle store index := by
  cases requests with
  | nil => cases scans
  | cons first rest =>
    obtain ⟨begins, nexts⟩ := List.cons.inj scans
    obtain ⟨length, steps⟩ := List.eq_replicate_iff.mp nexts
    rw [List.length_map] at length
    rw [List.forall_mem_map] at steps
    have found : (session.given first).registry.store handle = .ok store := here
    obtain ⟨answer, visits⟩ := visits_stepFirst found filled
    rw [← begins] at answer visits
    obtain ⟨answers, later⟩ := visits_serveAll visits.here steps (by omega) few
    refine ⟨List.forall_mem_cons.mpr ⟨answer, answers⟩, ?_⟩
    intro index inside
    cases index with
    | zero => exact visits
    | succ index =>
      have visited := later index (by omega)
      rw [Nat.zero_add] at visited
      rw [List.take_succ_cons]
      exact visited

theorem visits_last (here : session.registry.store handle = .ok store)
    (filled : 0 < store.records.count) (few : store.records.count ≤ maxRecords)
    (scans : requests.map (·.call) = Call.scan handle store.records.count) :
    Visits (session.serveAll requests) handle store (store.records.count - 1) := by
  have length : requests.length = store.records.count - 1 + 1 := by
    simpa [Call.scan] using congrArg List.length scans
  have visited := (visits_scan here filled few scans).2 (store.records.count - 1) (by omega)
  rw [← length, List.take_length] at visited
  exact visited

/-! ## Behind the records -/

theorem run_stepNext_last (h : Visits session handle store index)
    (last : index + 1 = store.records.count) (few : store.records.count ≤ maxRecords) :
    session.run (.step handle .next) =
      (.error (.indexOutOfRange store.records.count store.records.count),
        session.withStore handle (store.movedTo store.records.count)) := by
  have moves : (store.movedTo index).stepNext = (.found, store.movedTo store.records.count) := by
    rw [← last]
    exact store.stepNext_movedTo (by omega)
  exact positioned_outside h.here moves (Store.current_eq_error_iff.mpr ⟨Nat.le_refl _, rfl⟩)

theorem run_insert_behind {position : Nat} {record : Bytes}
    (here : session.registry.store handle = .ok (store.movedTo position))
    (behind : store.records.count < position) (fits : record.length = store.records.recordLength) :
    session.run (.insert handle record) =
      (.error (.indexOutOfRange position store.records.count), session) := by
  have outcome : (store.movedTo position).insertHere record =
      .error (.indexOutOfRange position store.records.count) :=
    Store.insertHere_outside behind fits
  rw [run_insert here, outcome]
  rfl

theorem exists_run_insert_end {record : Bytes}
    (here : session.registry.store handle = .ok (store.movedTo store.records.count))
    (fits : record.length = store.records.recordLength) (room : store.records.count < maxRecords) :
    ∃ records, records.rows = store.records.rows ++ [record] ∧
      session.run (.insert handle record) = (.ok .done,
        session.withStore handle ((store.movedTo store.records.count).withRecords records)) := by
  have inside : (store.movedTo store.records.count).position ≤ store.records.count := Nat.le_refl _
  obtain ⟨records, inserted, rows⟩ := Store.exists_insertHere inside fits room
  refine ⟨records, ?_, ?_⟩
  · rw [rows, Store.movedTo_position, Store.movedTo_records, Records.count,
      List.insertIdx_length_self]
  · rw [run_insert here, inserted]
    rfl

/-- A scan finds every record, and right after it fails a record can be appended. -/
theorem serveAll_scan (reachable : session.registry.Reachable)
    (here : session.registry.store handle = .ok store) (filled : 0 < store.records.count)
    (scans : requests.map (·.call) = Call.scan handle store.records.count) :
    let n := store.records.count
    let stepped := (session.serveAll requests).run (.step handle .next)
    let past := stepped.2
    (∀ exchange ∈ session.exchanges requests, exchange.answer = .ok (.status .found)) ∧
    (∀ index < n, Visits (session.serveAll (requests.take (index + 1))) handle store index) ∧
    stepped.1 = .error (.indexOutOfRange n n) ∧
    past.registry.store handle = .ok (store.movedTo n) ∧
    store.records.rows[n - 1]? = some past.destination ∧
    ∀ record, record.length = store.recordLength.toNat →
      (n < 65535 → ∃ records, records.rows = store.records.rows ++ [record] ∧
        past.run (.insert handle record) =
          (.ok .done, past.withStore handle ((store.movedTo n).withRecords records))) ∧
      ∀ further, further ≠ [] → (∀ request ∈ further, request.call = .step handle .next) →
        let later := past.serveAll further
        let position := min (n + further.length) Cursor.maxPosition
        (n + further.length < addressLimit → position = n + further.length) ∧
        later.registry.store handle = .ok (store.movedTo position) ∧
        later.run (.insert handle record) = (.error (.indexOutOfRange position n), later) := by
  intro n stepped past
  have follows := reachable.follows here
  have few : n ≤ maxRecords := follows.count_le
  have below : n < Cursor.maxPosition := Nat.lt_of_le_of_lt few (by decide)
  obtain ⟨answers, visits⟩ := visits_scan here filled few scans
  have last : Visits (session.serveAll requests) handle store (n - 1) :=
    visits_last here filled few scans
  have passed : stepped = (.error (.indexOutOfRange n n),
      (session.serveAll requests).withStore handle (store.movedTo n)) :=
    run_stepNext_last last (by omega) few
  have behind : past.registry.store handle = .ok (store.movedTo n) := by
    unfold past
    rw [passed]
    exact Registry.store_withStore _ _ _
  refine ⟨answers, visits, congrArg Prod.fst passed, behind, ?_, ?_⟩
  · unfold past
    rw [passed]
    exact last.copied
  · intro record fits
    rw [← follows.rowLength_eq] at fits
    refine ⟨exists_run_insert_end behind fits, ?_⟩
    -- Any further step leaves the one place where a record can be appended.
    intro further more steps later position
    have one : 0 < further.length := List.length_pos_iff.mpr more
    have there : later.registry.store handle = .ok (store.movedTo position) :=
      store_serveAll_steps behind steps (by omega)
    refine ⟨?_, there, run_insert_behind there (by omega) fits⟩
    intro small
    exact Nat.min_eq_left (Nat.le_sub_one_of_lt small)

def samplePair : Session :=
  sampleOpened.serveAll ([.insert ⟨1⟩ [65, 66], .insert ⟨1⟩ [67, 68]].map sampleRequest)

theorem serveAll_scan_sample :
    let requests := (Call.scan ⟨1⟩ 2).map sampleRequest
    let stepped := (samplePair.serveAll requests).run (.step ⟨1⟩ .next)
    let further := List.replicate 3 (sampleRequest (.step ⟨1⟩ .next))
    ∃ store, samplePair.registry.Reachable ∧
      samplePair.registry.store ⟨1⟩ = .ok store ∧
      0 < store.records.count ∧
      requests.map (·.call) = Call.scan ⟨1⟩ store.records.count ∧
      store.records.rows = [[67, 68], [65, 66]] ∧
      Visits (samplePair.serveAll (requests.take 1)) ⟨1⟩ store 0 ∧
      Visits (samplePair.serveAll (requests.take 2)) ⟨1⟩ store 1 ∧
      stepped.1 = .error (.indexOutOfRange 2 2) ∧
      stepped.2.destination = [65, 66] ∧
      (stepped.2.run (.insert ⟨1⟩ [69, 70])).1 = .ok .done ∧
      (stepped.2.serveAll further).run (.insert ⟨1⟩ [69, 70]) =
        (.error (.indexOutOfRange 5 2), stepped.2.serveAll further) := by
  intro requests stepped further
  have reachable : samplePair.registry.Reachable := reachable_serveAll reachable_sampleOpened _
  have steps : ∀ request ∈ further, request.call = .step ⟨1⟩ .next := by
    intro request mem
    rw [List.eq_of_mem_replicate mem]
    rfl
  have scanned := @serveAll_scan samplePair ⟨1⟩ _ requests reachable rfl
  obtain ⟨-, visits, answer, -, kept, writes⟩ := scanned (by decide) rfl
  obtain ⟨append, passes⟩ := writes [69, 70] rfl
  obtain ⟨_, -, appended⟩ := append (by decide)
  obtain ⟨-, -, refused⟩ := passes further (by simp [further]) steps
  exact ⟨_, reachable, rfl, by decide, rfl, rfl, visits 0 (by decide), visits 1 (by decide), answer,
    (Option.some.inj kept).symm, congrArg Prod.fst appended, refused⟩

end Session

end RecordFile
