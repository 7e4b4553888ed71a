import RecordFile.Proofs.Session.Isolation

/-! # Where a store comes from

The store under a handle is the one that was made by the open that answered the handle, after
everything that was asked of it since.
-/

namespace RecordFile

/-! ## What is asked of one store -/

def Call.operationOn? (call : Call) (handle : Handle) : Option Store.Operation :=
  (call.request?.filter (·.1 = handle)).map (·.2)

def operationsOn (handle : Handle) (requests : List Request) : List Store.Operation :=
  requests.filterMap (·.call.operationOn? handle)

namespace Call

variable {call : Call} {handle : Handle}

theorem operationOn?_eq_some_iff {operation : Store.Operation} :
    call.operationOn? handle = some operation ↔ call.request? = some (handle, operation) := by
  unfold operationOn?
  constructor
  · intro asks
    obtain ⟨⟨other, found⟩, kept, rfl⟩ := Option.map_eq_some_iff.mp asks
    obtain ⟨asked, same⟩ := Option.filter_eq_some_iff.mp kept
    have handles : other = handle := of_decide_eq_true same
    rw [asked, handles]
  · intro asks
    simp [asks]

theorem operationOn?_eq_none (elsewhere : call.addressee? ≠ some handle) :
    call.operationOn? handle = none := by
  rw [Option.eq_none_iff_forall_ne_some]
  intro operation asks
  exact elsewhere (addressee?_of_request? (operationOn?_eq_some_iff.mp asks))

theorem exists_of_addressee? (addressed : call.addressee? = some handle) :
    (∃ operation, call.operationOn? handle = some operation) ∨
      ∃ number, call = .close number handle := by
  simp only [operationOn?_eq_some_iff]
  cases call with
  | close number _ =>
    cases addressed
    exact .inr ⟨number, rfl⟩
  | _ =>
    simp only [addressee?, Option.map_eq_some_iff] at addressed
    obtain ⟨⟨_, operation⟩, asks, rfl⟩ := addressed
    exact .inl ⟨operation, asks⟩

end Call

namespace Session

variable {session : Session} {handle : Handle} {store : Store} {call : Call}
  {requests : List Request}

/-! ## One call -/

theorem store_settle (here : session.registry.store handle = .ok store)
    (outcome : Except StoreError Store) :
    (session.settle (outcome.map (.done, session.withStore handle ·))).2.registry.store handle =
      .ok (store.settle outcome).2 := by
  cases outcome with
  | error error => exact here
  | ok changed => exact Registry.store_withStore _ _ _

theorem store_positioned (here : session.registry.store handle = .ok store)
    (move : Store → Status × Store) :
    (session.positioned (session.registry.positionWith handle move
      session.destination)).2.registry.store handle = .ok (move store).2 := by
  rw [positioned_eq here]
  exact Registry.store_withStore _ _ _

theorem store_run_of_request {operation : Store.Operation}
    (asks : call.request? = some (handle, operation))
    (here : session.registry.store handle = .ok store) :
    (session.run call).2.registry.store handle = .ok (store.apply operation).2 := by
  cases call with
  | step _ option =>
    cases option with
    | first => cases asks; exact store_positioned here Store.stepFirst
    | next => cases asks; exact store_positioned here Store.stepNext
  | lookUp _ key number option =>
    cases option
    cases asks
    exact store_positioned here (·.findEqual number key)
  | insert _ record =>
    cases asks
    rw [run_insert here]
    exact store_settle here _
  | update _ record =>
    cases asks
    rw [run_update here]
    exact store_settle here _
  | seek _ key =>
    cases asks
    rw [run_seek here]
    exact Registry.store_withStore _ _ _
  | onStore _ operation =>
    cases asks
    rw [run_onStore here]
    exact Registry.store_withStore _ _ _
  | _ => cases asks

/-! ## Runs -/

/-- A store that stays open along a run ends as if it were asked alone. -/
theorem store_serveAll (h : session.registry.IsSound)
    (here : session.registry.store handle = .ok store)
    (kept : handle ∉ closedHandles (session.exchanges requests)) :
    (session.serveAll requests).registry.store handle =
      .ok (store.run (operationsOn handle requests)) := by
  induction requests generalizing session store with
  | nil => exact here
  | cons request rest ih =>
    have found : (session.given request).registry.store handle = .ok store := here
    rw [exchanges, closedHandles_cons, List.mem_append, not_or] at kept
    obtain ⟨stays, keptLater⟩ := kept
    rw [serveAll_cons, operationsOn, List.filterMap_cons]
    by_cases addressed : request.call.addressee? = some handle
    · -- Only a close would not ask the store, and the run has none that worked.
      rcases Call.exists_of_addressee? addressed with ⟨operation, asks⟩ | ⟨number, closes⟩
      · have next := store_run_of_request (Call.operationOn?_eq_some_iff.mp asks) found
        rw [asks]
        exact ih (isSound_serve h request) next keptLater
      · have answer : (session.serve request).1 = .ok (.closed store) := by
          rw [serve, closes, run_close found]
        rw [closes, answer] at stays
        exact absurd (List.mem_singleton.mpr rfl) stays
    · have next := store_of_transition (transition_serve h.ordered request) addressed
        fun _ => h.issued here
      rw [Call.operationOn?_eq_none addressed]
      exact ih (isSound_serve h request) (next.trans found) keptLater

theorem serveAll_append (session : Session) (first second : List Request) :
    session.serveAll (first ++ second) = (session.serveAll first).serveAll second :=
  List.foldl_append

theorem exchanges_append (session : Session) (first second : List Request) :
    session.exchanges (first ++ second) =
      session.exchanges first ++ (session.serveAll first).exchanges second := by
  induction first generalizing session with
  | nil => rfl
  | cons request rest ih => rw [List.cons_append, exchanges, ih, exchanges, serveAll_cons]; rfl

/-! ## The open behind a handle -/

/-- A request of a run that opened a store and was answered the handle. -/
structure Opening (session : Session) (requests : List Request) (handle : Handle) where
  before : List Request
  request : Request
  after : List Request
  number : Nat
  name : String
  basePath : Option String
  recordLength : UInt16
  run_eq : requests = before ++ request :: after
  call_eq : request.call = .openStore number name basePath recordLength
  answer_eq : ((session.serveAll before).serve request).1 = .ok (.handle handle)

theorem exists_openStore_of_opened? {exchange : Exchange}
    (opens : exchange.opened? = some handle) :
    exchange.answer = .ok (.handle handle) ∧ ∃ number name basePath recordLength,
      exchange.call = .openStore number name basePath recordLength := by
  unfold Exchange.opened? at opens
  split at opens
  · cases opens
    exact ⟨rfl, _, _, _, _, rfl⟩
  · cases opens

theorem Transition.exists_opened {number : Nat} {name : String} {basePath : Option String}
    {recordLength : UInt16} {after : Session}
    (moved : session.Transition (.openStore number name basePath recordLength)
      (.ok (.handle handle)) after) :
    ∃ first, Store.openNamed session.files name basePath recordLength session.registry.settings =
        .ok first ∧
      after.registry.store handle = .ok first := by
  cases moved with
  | @opened _ _ _ _ first _ read => exact ⟨first, read, Registry.store_withOpened_self _ first⟩
  | served asks _ => cases asks

theorem exists_opening (issued : handle ∈ issuedHandles (session.exchanges requests)) :
    Nonempty (Opening session requests handle) := by
  induction requests generalizing session with
  | nil => cases issued
  | cons request rest ih =>
    rw [exchanges, issuedHandles_cons, List.mem_append] at issued
    rcases issued with now | later
    · obtain ⟨answer, number, name, basePath, recordLength, call⟩ :=
        exists_openStore_of_opened? (Option.mem_toList.mp now)
      exact ⟨{
        before := []
        request, number, name, basePath, recordLength
        after := rest
        run_eq := rfl
        call_eq := call
        answer_eq := answer }⟩
    · obtain ⟨opening⟩ := ih later
      exact ⟨{ opening with
        before := request :: opening.before
        run_eq := congrArg (request :: ·) opening.run_eq }⟩

namespace Opening

def opened (opening : Opening session requests handle) : Session :=
  ((session.serveAll opening.before).serve opening.request).2

structure Made (opening : Opening session requests handle) (settings : Settings)
    (store : Store) : Prop where
  name_eq : store.name = opening.name
  recordLength_eq : store.recordLength = opening.recordLength
  exists_first : ∃ first,
    Store.openNamed opening.request.files opening.name opening.basePath opening.recordLength
      settings = .ok first ∧
    store = first.run (operationsOn handle opening.after)

variable (opening : Opening session requests handle)

theorem serveAll_eq : session.serveAll requests = opening.opened.serveAll opening.after := by
  have all := serveAll_append session opening.before (opening.request :: opening.after)
  rw [← opening.run_eq] at all
  exact all

theorem isSound_opened (h : session.registry.IsSound) : opening.opened.registry.IsSound :=
  isSound_serve (isSound_serveAll h _) _

theorem exists_first (h : session.registry.IsSound) :
    ∃ first, Store.openNamed opening.request.files opening.name opening.basePath
        opening.recordLength session.registry.settings = .ok first ∧
      opening.opened.registry.store handle = .ok first := by
  have sound := isSound_serveAll h opening.before
  have moved := transition_serve sound.ordered opening.request
  rw [opening.call_eq, opening.answer_eq] at moved
  rw [← settings_serveAll h opening.before]
  exact moved.exists_opened

theorem made (h : session.registry.IsSound)
    (held : (session.serveAll requests).registry.store handle = .ok store) :
    opening.Made session.registry.settings store := by
  obtain ⟨first, read, here⟩ := opening.exists_first h
  have sound := opening.isSound_opened h
  rw [opening.serveAll_eq] at held
  have kept := ((isOpen_serveAll_iff sound opening.after handle).mp ⟨store, held⟩).2
  rw [store_serveAll sound here kept] at held
  obtain ⟨image?, began⟩ := Store.exists_openFrom_of_openNamed read
  obtain ⟨-, name, length, -, -, -⟩ := Store.settled_of_openFrom began
  have follows := Store.follows_run began (operationsOn handle opening.after)
  cases held
  exact {
    name_eq := follows.name_eq.trans name
    recordLength_eq := follows.recordLength_eq.trans length
    exists_first := ⟨first, read, rfl⟩ }

/-! ## Only one open -/

theorem mem_issuedHandles (opening : Opening session requests handle) :
    handle ∈ issuedHandles (session.exchanges requests) := by
  have opened : Exchange.opened? ⟨opening.request.call,
      ((session.serveAll opening.before).serve opening.request).1⟩ = some handle := by
    rw [opening.answer_eq, opening.call_eq]
    rfl
  have all := exchanges_append session opening.before (opening.request :: opening.after)
  rw [← opening.run_eq] at all
  rw [all, issuedHandles, List.filterMap_append, exchanges, List.filterMap_cons_some opened]
  exact List.mem_append_right _ List.mem_cons_self

theorem not_before (h : session.registry.IsSound) (other : Opening session requests handle)
    (mid : List Request) : other.before ≠ opening.before ++ opening.request :: mid := by
  intro longer
  have runs := opening.run_eq.symm.trans other.run_eq
  rw [longer, List.append_assoc, List.append_cancel_left_eq] at runs
  have found : session.serveAll other.before = opening.opened.serveAll mid := by
    rw [longer, serveAll_append, serveAll_cons]
    rfl
  -- Right after this open the handle is given out, and the other one would answer it anew.
  have again : Opening opening.opened opening.after handle := {
    other with
    before := mid
    run_eq := (List.cons.inj runs).2
    answer_eq := found ▸ other.answer_eq }
  obtain ⟨first, -, here⟩ := opening.exists_first h
  have sound := opening.isSound_opened h
  exact not_mem_issuedHandles sound (sound.issued here) _ again.mem_issuedHandles

theorem before_eq_of_append (h : session.registry.IsSound)
    (other : Opening session requests handle) {more : List Request}
    (longer : other.before = opening.before ++ more) : opening.before = other.before := by
  cases more with
  | nil => rw [longer, List.append_nil]
  | cons first mid =>
    have runs := opening.run_eq.symm.trans other.run_eq
    rw [longer, List.append_assoc, List.append_cancel_left_eq] at runs
    obtain ⟨rfl, -⟩ := List.cons.inj runs
    exact absurd longer (opening.not_before h other mid)

theorem before_eq (h : session.registry.IsSound) (other : Opening session requests handle) :
    opening.before = other.before := by
  have runs := opening.run_eq.symm.trans other.run_eq
  rcases List.append_eq_append_iff.mp runs with ⟨more, longer, -⟩ | ⟨more, longer, -⟩
  · exact opening.before_eq_of_append h other longer
  · exact (other.before_eq_of_append h opening longer).symm

theorem unique (h : session.registry.IsSound) (other : Opening session requests handle) :
    opening = other := by
  have same := opening.before_eq h other
  have runs := opening.run_eq.symm.trans other.run_eq
  rw [same, List.append_cancel_left_eq, List.cons.injEq] at runs
  obtain ⟨requests, rest⟩ := runs
  have calls := opening.call_eq.symm.trans (requests ▸ other.call_eq)
  cases opening
  cases other
  cases same
  cases requests
  cases rest
  cases calls
  rfl

end Opening

end Session

end RecordFile
