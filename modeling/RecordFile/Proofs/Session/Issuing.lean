import Mathlib.Data.List.Nodup
import RecordFile.Proofs.Session.Requests

/-! # Handles along a run

The first store that is opened gets handle 1, the second handle 2, and so on. A handle is open from
then until it is closed, and never again.
-/

namespace RecordFile

def Handle.numbered (n : Nat) : Handle := ⟨UInt16.ofNat n⟩

theorem Handle.toNat_numbered {n : Nat} (small : n ≤ 65535) :
    (Handle.numbered n).value.toNat = n := by
  have wrapped : (UInt16.ofNat n).toNat = n % 65536 := UInt16.toNat_ofNat'
  rw [numbered, wrapped]
  omega

theorem Handle.nodup_numbered {n : Nat} (small : n ≤ 65535) :
    ((List.range' 1 n).map Handle.numbered).Nodup := by
  refine List.Nodup.map_on ?_ List.nodup_range'
  intro i hi j hj same
  rw [List.mem_range'_1] at hi hj
  have values := congrArg (·.value.toNat) same
  rwa [toNat_numbered (by omega), toNat_numbered (by omega)] at values

/-! ## What was opened and closed -/

structure Exchange where
  call : Call
  answer : Except StoreError Reply

namespace Exchange

def opened? : Exchange → Option Handle
  | ⟨.openStore .., .ok (.handle handle)⟩ => some handle
  | _ => none

def closed? : Exchange → Option Handle
  | ⟨.close _ handle, .ok _⟩ => some handle
  | _ => none

end Exchange

def issuedHandles (past : List Exchange) : List Handle := past.filterMap Exchange.opened?

def closedHandles (past : List Exchange) : List Handle := past.filterMap Exchange.closed?

theorem issuedHandles_cons (exchange : Exchange) (past : List Exchange) :
    issuedHandles (exchange :: past) = exchange.opened?.toList ++ issuedHandles past := by
  rw [issuedHandles, List.filterMap_cons]
  cases exchange.opened? <;> rfl

theorem closedHandles_cons (exchange : Exchange) (past : List Exchange) :
    closedHandles (exchange :: past) = exchange.closed?.toList ++ closedHandles past := by
  rw [closedHandles, List.filterMap_cons]
  cases exchange.closed? <;> rfl

namespace Session

def exchanges (session : Session) : List Request → List Exchange
  | [] => []
  | request :: rest =>
    ⟨request.call, (session.serve request).1⟩ :: (session.serve request).2.exchanges rest

end Session

/-! ## One step -/

namespace Registry

def IsOpen (registry : Registry) (handle : Handle) : Prop :=
  ∃ store, registry.store handle = .ok store

variable {registry : Registry} {handle : Handle} {store : Store}

theorem isOpen_iff_mem_handles : registry.IsOpen handle ↔ handle ∈ registry.stores.handles := by
  simp only [IsOpen, store_eq_ok_iff, HandleTable.get?_isSome_iff]

theorem isOpen_withStore_iff (here : registry.store handle = .ok store) (changed : Store)
    (other : Handle) :
    (registry.withStore handle changed).IsOpen other ↔ registry.IsOpen other := by
  unfold IsOpen
  by_cases same : other = handle
  · subst same
    simp [here]
  · rw [store_withStore_of_ne same]

theorem isOpen_without_iff (registry : Registry) (handle other : Handle) :
    (registry.without handle).IsOpen other ↔ other ≠ handle ∧ registry.IsOpen other := by
  unfold IsOpen
  by_cases same : other = handle
  · simp [same]
  · simp [store_without_of_ne same, same]

theorem isOpen_withOpened_iff (registry : Registry) (store : Store) (other : Handle) :
    (registry.withOpened store).IsOpen other ↔
      other = ⟨registry.nextHandle⟩ ∨ registry.IsOpen other := by
  unfold IsOpen
  by_cases same : other = ⟨registry.nextHandle⟩
  · simp [same, store_withOpened_self]
  · rw [store_withOpened_of_ne same]
    simp [same]

end Registry

inductive Exchange.Moves (registry : Registry) (exchange : Exchange) (after : Registry) : Prop
  | opened (gives : exchange.opened? = some ⟨registry.nextHandle⟩)
      (closes : exchange.closed? = none) (free : registry.nextHandle ≠ 0)
      (count : after.issuedCount = registry.issuedCount + 1)
      (isOpen : ∀ other, after.IsOpen other ↔
        other = ⟨registry.nextHandle⟩ ∨ registry.IsOpen other)
  | closed {handle : Handle} (gives : exchange.opened? = none)
      (closes : exchange.closed? = some handle) (here : registry.IsOpen handle)
      (count : after.issuedCount = registry.issuedCount)
      (isOpen : ∀ other, after.IsOpen other ↔ other ≠ handle ∧ registry.IsOpen other)
  | kept (gives : exchange.opened? = none) (closes : exchange.closed? = none)
      (count : after.issuedCount = registry.issuedCount)
      (isOpen : ∀ other, after.IsOpen other ↔ registry.IsOpen other)

theorem opened?_closed?_of_request? {call : Call} {asked : Handle × Store.Operation}
    (asks : call.request? = some asked) (answer : Except StoreError Reply) :
    (Exchange.mk call answer).opened? = none ∧ (Exchange.mk call answer).closed? = none := by
  cases call with
  | openStore | close => cases asks
  | _ => exact ⟨rfl, rfl⟩

theorem moves_of_transition {session after : Session} {call : Call}
    {answer : Except StoreError Reply} (h : session.Transition call answer after) :
    Exchange.Moves session.registry ⟨call, answer⟩ after.registry := by
  cases h with
  | opened free _ =>
    exact .opened rfl rfl free (Registry.issuedCount_withOpened free _)
      (Registry.isOpen_withOpened_iff _ _)
  | closed here => exact .closed rfl rfl ⟨_, here⟩ rfl (Registry.isOpen_without_iff _ _)
  | served asks here =>
    obtain ⟨gives, closes⟩ := opened?_closed?_of_request? asks _
    exact .kept gives closes rfl (Registry.isOpen_withStore_iff here _)
  | passedEnd here _ => exact .kept rfl rfl rfl (Registry.isOpen_withStore_iff here _)
  | selected | restored | told => exact .kept rfl rfl rfl fun _ => Iff.rfl
  | failed =>
    refine .kept ?_ ?_ rfl fun _ => Iff.rfl
    all_goals cases call <;> rfl

/-! ## Runs -/

namespace Session

variable {session : Session}

theorem moves_serve (h : session.registry.IsSound) (request : Request) :
    Exchange.Moves session.registry ⟨request.call, (session.serve request).1⟩
      (session.serve request).2.registry := by
  have moves := moves_of_transition (transition_serve h.ordered request)
  exact moves

theorem exists_issuedHandles_exchanges (h : session.registry.IsSound) (requests : List Request) :
    ∃ n, (session.serveAll requests).registry.issuedCount = session.registry.issuedCount + n ∧
      issuedHandles (session.exchanges requests) =
        (List.range' (session.registry.issuedCount + 1) n).map Handle.numbered := by
  induction requests generalizing session with
  | nil => exact ⟨0, (Nat.add_zero _).symm, by simp [exchanges, issuedHandles]⟩
  | cons request rest ih =>
    -- The later handles follow on from the counter that the first request leaves.
    obtain ⟨n, count, later⟩ := ih (isSound_serve h request)
    rw [serveAll_cons, count, exchanges, issuedHandles_cons, later]
    cases moves_serve h request with
    | opened gives _ free one =>
      have first : Handle.numbered (session.registry.issuedCount + 1) =
          ⟨session.registry.nextHandle⟩ := by
        rw [← Registry.toNat_nextHandle free, Handle.numbered, UInt16.ofNat_toNat]
      refine ⟨n + 1, by omega, ?_⟩
      rw [gives, one, List.range'_succ, List.map_cons, first]
      rfl
    | closed gives _ _ same =>
      rw [gives, same]
      exact ⟨n, rfl, rfl⟩
    | kept gives _ same =>
      rw [gives, same]
      exact ⟨n, rfl, rfl⟩

theorem length_issuedHandles (h : session.registry.IsSound)
    (start : session.registry.issuedCount = 0) (requests : List Request) :
    (issuedHandles (session.exchanges requests)).length =
      (session.serveAll requests).registry.issuedCount := by
  obtain ⟨n, count, numbers⟩ := exists_issuedHandles_exchanges h requests
  rw [count, numbers, start, List.length_map, List.length_range', Nat.zero_add]

theorem not_mem_issuedHandles (h : session.registry.IsSound) {handle : Handle}
    (old : session.registry.HasIssued handle) (requests : List Request) :
    handle ∉ issuedHandles (session.exchanges requests) := by
  obtain ⟨n, count, issued⟩ := exists_issuedHandles_exchanges h requests
  have last := (session.serveAll requests).registry.issuedCount_le
  rw [issued]
  intro mem
  obtain ⟨k, inside, rfl⟩ := List.mem_map.mp mem
  obtain ⟨-, before⟩ := old
  rw [List.mem_range'_1] at inside
  rw [Handle.toNat_numbered (by omega)] at before
  omega

theorem isOpen_serveAll_iff (h : session.registry.IsSound) (requests : List Request)
    (handle : Handle) :
    (session.serveAll requests).registry.IsOpen handle ↔
      (session.registry.IsOpen handle ∨ handle ∈ issuedHandles (session.exchanges requests)) ∧
        handle ∉ closedHandles (session.exchanges requests) := by
  induction requests generalizing session with
  | nil => simp [exchanges, issuedHandles, closedHandles]
  | cons request rest ih =>
    have sound := isSound_serve h request
    rw [serveAll_cons, ih sound, exchanges, issuedHandles_cons, closedHandles_cons,
      List.mem_append, List.mem_append]
    cases moves_serve h request with
    | opened gives closes _ _ isOpen =>
      simp [gives, closes, isOpen, or_assoc, or_left_comm]
    | @closed closedOne gives closes here same isOpen =>
      by_cases closing : handle = closedOne
      · -- The handle was given out already, so it does not come again.
        have old : (session.serve request).2.registry.HasIssued handle := by
          obtain ⟨store, here⟩ := here
          rw [Registry.HasIssued, same, closing]
          exact h.issued here
        have again := not_mem_issuedHandles sound old rest
        rw [closing] at again
        simp [gives, closes, isOpen, closing, again]
      · simp [gives, closes, isOpen, closing]
    | kept gives closes _ isOpen => simp [gives, closes, isOpen]

/-! ## The next open -/

theorem settings_of_transition {after : Session} {call : Call} {answer : Except StoreError Reply}
    (h : session.Transition call answer after) :
    after.registry.settings = session.registry.settings := by
  cases h <;> rfl

theorem settings_serveAll (h : session.registry.IsSound) (requests : List Request) :
    (session.serveAll requests).registry.settings = session.registry.settings :=
  serveAll_induction (p := fun later => later.registry.settings = session.registry.settings) h rfl
    fun _ sound kept => (settings_of_transition (transition_serve sound.ordered _)).trans kept

section Opening

variable (files : FileSystem) (buffer : Bytes) (number : Nat) (name : String)
  (basePath : Option String) (recordLength : UInt16)

theorem serve_openStore_of_exhausted (used : session.registry.issuedCount = 65535) :
    let request : Request := ⟨files, buffer, .openStore number name basePath recordLength⟩
    session.serve request = (.error .handlesExhausted, session.given request) := by
  exact run_openStore_exhausted number name basePath recordLength
    (Registry.nextHandle_eq_zero_iff.mpr used)

theorem answer_openStore (left : session.registry.issuedCount < 65535) :
    (session.serve ⟨files, buffer, .openStore number name basePath recordLength⟩).1 =
      (Store.openNamed files name basePath recordLength session.registry.settings).map
        fun _ => .handle (.numbered (session.registry.issuedCount + 1)) := by
  have free : session.registry.nextHandle ≠ 0 := by
    intro used
    rw [Registry.nextHandle_eq_zero_iff] at used
    omega
  have ran := (run_openStore number name basePath recordLength free :
    (session.given ⟨files, buffer, .openStore number name basePath recordLength⟩).run _ = _)
  rw [← Registry.toNat_nextHandle free, Handle.numbered, UInt16.ofNat_toNat]
  refine (congrArg Prod.fst ran).trans ?_
  change (settle _ (Except.map _ (Store.openNamed files name basePath recordLength
    session.registry.settings))).1 = _
  cases Store.openNamed files name basePath recordLength session.registry.settings <;> rfl

theorem opens_vacant (h : session.registry.IsSound) {handle : Handle}
    (opened : (session.serve ⟨files, buffer, .openStore number name basePath recordLength⟩).1 =
      .ok (.handle handle)) :
    ¬session.registry.IsOpen handle ∧ ∀ other, other ≠ handle →
      (session.serve ⟨files, buffer, .openStore number name basePath recordLength⟩).2.registry.store
        other = session.registry.store other := by
  have moved := transition_serve h.ordered
    ⟨files, buffer, .openStore number name basePath recordLength⟩
  rw [opened] at moved
  generalize (session.serve _).2 = after at moved ⊢
  cases moved with
  | opened free _ =>
    refine ⟨?_, fun other apart => Registry.store_withOpened_of_ne apart _⟩
    rintro ⟨store, here⟩
    exact Registry.not_hasIssued_next free (h.issued here)
  | served asks _ => cases asks

end Opening

/-! ## A new session -/

/-- Handles are given out from 1 on, none twice, and 65535 is the last. -/
theorem issuedHandles_run (files : FileSystem) (settings : Settings) (destination : Bytes)
    (requests : List Request) :
    let session := Session.new files settings destination
    let issued := issuedHandles (session.exchanges requests)
    let closed := closedHandles (session.exchanges requests)
    let last := session.serveAll requests
    (∃ n ≤ 65535, issued = (List.range' 1 n).map Handle.numbered) ∧
    issued.Nodup ∧
    (∀ handle, handle ∈ last.registry.stores.handles ↔ handle ∈ issued ∧ handle ∉ closed) ∧
    ∀ files buffer number name basePath recordLength,
      let opening := last.serve ⟨files, buffer, .openStore number name basePath recordLength⟩
      (issued.length = 65535 → opening.1 = .error .handlesExhausted ∧
        opening.2.registry = last.registry ∧ opening.2.selections = last.selections) ∧
      (issued.length < 65535 →
        opening.1 = (Store.openNamed files name basePath recordLength settings).map
          fun _ => .handle (.numbered (issued.length + 1))) ∧
      ∀ handle, opening.1 = .ok (.handle handle) →
        handle ∉ last.registry.stores.handles ∧
        ∀ other, other ≠ handle → opening.2.registry.store other = last.registry.store other := by
  intro session issued closed last
  have sound : session.registry.IsSound := Registry.isSound_new settings
  obtain ⟨n, count, numbers⟩ := exists_issuedHandles_exchanges sound requests
  have small := last.registry.issuedCount_le
  have start : session.registry.issuedCount = 0 := Registry.issuedCount_new settings
  have settled : last.registry.settings = settings := settings_serveAll sound requests
  change last.registry.issuedCount = session.registry.issuedCount + n at count
  change issued = _ at numbers
  rw [start, Nat.zero_add] at count numbers
  have length : issued.length = last.registry.issuedCount :=
    length_issuedHandles sound start requests
  refine ⟨⟨n, by omega, numbers⟩, ?_, ?_, ?_⟩
  · rw [numbers]
    exact Handle.nodup_numbered (by omega)
  · -- Nothing is open in a new session, so what is in the table was given out along the run.
    intro handle
    have empty : ¬session.registry.IsOpen handle := by
      rintro ⟨store, ⟨⟩⟩
    rw [← Registry.isOpen_iff_mem_handles, isOpen_serveAll_iff sound]
    simp only [empty, false_or]
    rfl
  · intro files buffer number name basePath recordLength opening
    refine ⟨?_, ?_, ?_⟩
    · -- The counter has wrapped to 0.
      intro full
      have used : last.registry.issuedCount = 65535 := length ▸ full
      have failed := serve_openStore_of_exhausted files buffer number name basePath recordLength
        used
      exact ⟨congrArg Prod.fst failed, congrArg (·.2.registry) failed,
        congrArg (·.2.selections) failed⟩
    · intro left
      rw [length, ← settled]
      exact answer_openStore files buffer number name basePath recordLength (length ▸ left)
    · intro handle opened
      rw [← Registry.isOpen_iff_mem_handles]
      exact opens_vacant files buffer number name basePath recordLength
        (isSound_serveAll sound requests) opened

/-! ## All handles used up -/

def makesNew : Request := ⟨.empty [], [], .openStore 0 "NEW" none 2⟩

theorem issuedCount_serveAll_makesNew (h : session.registry.IsSound)
    (settled : session.registry.settings = {}) {n : Nat}
    (left : session.registry.issuedCount + n ≤ 65535) :
    (session.serveAll (List.replicate n makesNew)).registry.issuedCount =
      session.registry.issuedCount + n := by
  induction n generalizing session with
  | zero => simp
  | succ n ih =>
    have answer := answer_openStore (.empty []) [] 0 "NEW" none 2
      (show session.registry.issuedCount < 65535 by omega)
    have gives : (Exchange.mk makesNew.call (session.serve makesNew).1).opened? ≠ none := by
      rw [settled] at answer
      rw [makesNew, answer]
      exact Option.some_ne_none _
    have one : (session.serve makesNew).2.registry.issuedCount =
        session.registry.issuedCount + 1 := by
      cases moves_serve h makesNew with
      | opened _ _ _ one => exact one
      | closed none | kept none => exact absurd none gives
    have kept := settings_of_transition (transition_serve h.ordered makesNew)
    rw [List.replicate_succ, serveAll_cons, ih (isSound_serve h makesNew) (kept.trans settled)]
    · omega
    · omega

/-- One store is opened and closed, and then `n` others are opened. -/
def opensMany (n : Nat) : List Request :=
  makesNew :: ⟨.empty [], [], .close 0 ⟨1⟩⟩ :: List.replicate n makesNew

theorem issuedCount_opensMany {n : Nat} (left : n ≤ 65534) :
    ((Session.new (.empty []) {} []).serveAll (opensMany n)).registry.issuedCount = 1 + n := by
  rw [opensMany, serveAll_cons, serveAll_cons]
  generalize second : ((Session.serve _ makesNew).2.serve _).2 = session
  have registry : session.registry = ⟨{}, .empty, 2⟩ := by rw [← second]; rfl
  have sound : session.registry.IsSound := by
    rw [← second]
    exact isSound_serve (isSound_serve (Registry.isSound_new {}) _) _
  have count : session.registry.issuedCount = 1 := by rw [registry]; rfl
  rw [issuedCount_serveAll_makesNew sound (by rw [registry]) (by omega), count]

theorem mem_closedHandles_opensMany (n : Nat) :
    ⟨1⟩ ∈ closedHandles ((Session.new (.empty []) {} []).exchanges (opensMany n)) := by
  have closes : Exchange.closed? ⟨.close 0 ⟨1⟩, (((Session.new (.empty []) {} []).serve
      makesNew).2.serve ⟨.empty [], [], .close 0 ⟨1⟩⟩).1⟩ = some ⟨1⟩ := rfl
  rw [opensMany, exchanges, exchanges, closedHandles_cons, closedHandles_cons, closes]
  simp

/-- No handle comes after the last one, although the first was closed. -/
theorem issuedHandles_run_exhausted :
    ⟨1⟩ ∉ ((Session.new (.empty []) {} []).serveAll (opensMany 65534)).registry.stores.handles ∧
      (((Session.new (.empty []) {} []).serveAll (opensMany 65534)).serve makesNew).1 =
        .error .handlesExhausted := by
  -- The number is kept apart from the run, which is never unfolded.
  generalize many : 65534 = n
  have sound : (Session.new (.empty []) {} []).registry.IsSound := Registry.isSound_new {}
  have full : 1 + n = 65535 := by omega
  have length := length_issuedHandles sound (Registry.issuedCount_new {}) (opensMany n)
  rw [issuedCount_opensMany (by omega), full] at length
  obtain ⟨-, -, holds, next⟩ := issuedHandles_run (.empty []) {} [] (opensMany n)
  constructor
  · intro held
    exact ((holds ⟨1⟩).mp held).2 (mem_closedHandles_opensMany n)
  · exact ((next (.empty []) [] 0 "NEW" none 2).1 length).1

end Session

end RecordFile
