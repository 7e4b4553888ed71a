import RecordFile.Proofs.Session.Lineage

/-! # The current store of a selection

Closing a store clears its handle from the one selection that it is closed through. Another
selection may still hold it, and is told so.
-/

namespace RecordFile

/-! ## Handles that are not open -/

theorem Registry.store_eq_error_iff {registry : Registry} {handle : Handle} {error : StoreError} :
    registry.store handle = .error error ↔
      ¬registry.IsOpen handle ∧ error = .unknownHandle handle.value.toNat := by
  unfold Registry.IsOpen Registry.store
  cases registry.stores.get? handle with
  | none => simp [eq_comm]
  | some store => simp

/-! ## The two places of a selection -/

namespace Selection

def Holds (selection : Selection) (handle : Handle) : Prop :=
  selection.active = some handle ∨ selection.previous = some handle

variable {selection : Selection} {handle other : Handle}

theorem not_holds_new : ¬({} : Selection).Holds handle := by
  rintro (⟨⟨⟩⟩ | ⟨⟨⟩⟩)

theorem holds_of_select (held : (selection.select other).Holds handle) :
    handle = other ∨ selection.Holds handle := by
  unfold select at held
  rcases held with active | previous
  · exact .inl (Option.some.inj active).symm
  · dsimp only at previous
    split at previous
    · exact .inr (.inl previous)
    · exact .inr (.inr previous)

theorem holds_of_restore (held : selection.restore.Holds handle) : selection.Holds handle := by
  unfold restore at held
  split at held
  · rcases held with active | previous
    · exact .inr active
    · exact .inr previous
  · exact held

theorem holds_of_activate (held : (selection.activate other).Holds handle) :
    handle = other ∨ selection.Holds handle := by
  rcases held with active | previous
  · exact .inl (Option.some.inj active).symm
  · exact .inr (.inr previous)

theorem holds_forget_iff :
    (selection.forget other).Holds handle ↔ handle ≠ other ∧ selection.Holds handle := by
  simp only [Holds, forget, Option.filter_eq_some_iff, decide_eq_true_eq]
  rw [← or_and_right, and_comm]

end Selection

namespace Session

variable {session : Session} {handle : Handle} {number : Nat} {requests : List Request}

/-! ## One call -/

theorem selections_withSelection (session : Session) (number other : Nat)
    (selection : Selection) :
    (session.withSelection other selection).selections number =
      if number = other then selection else session.selections number := rfl

theorem holds_of_withSelection {other : Nat} {selection : Selection}
    (held : ((session.withSelection other selection).selections number).Holds handle) :
    (number = other ∧ selection.Holds handle) ∨ (session.selections number).Holds handle := by
  rw [selections_withSelection] at held
  split at held
  · next same => exact .inl ⟨same, held⟩
  · exact .inr held

theorem Transition.holds {after : Session} {call : Call} {answer : Except StoreError Reply}
    (moved : session.Transition call answer after) (held : (after.selections number).Holds handle) :
    (session.selections number).Holds handle ∨ after.registry.IsOpen handle := by
  -- Only opening and selecting bring in a handle, and that one is open.
  cases moved with
  | @opened _ _ _ _ store =>
    rcases holds_of_withSelection held with ⟨rfl, active⟩ | before
    · rcases Selection.holds_of_activate active with new | before
      · exact .inr ((Registry.isOpen_withOpened_iff _ store handle).mpr (.inl new))
      · exact .inl before
    · exact .inl before
  | closed =>
    rcases holds_of_withSelection held with ⟨rfl, kept⟩ | before
    · exact .inl (Selection.holds_forget_iff.mp kept).2
    · exact .inl before
  | @selected _ _ store here =>
    rcases holds_of_withSelection held with ⟨rfl, active⟩ | before
    · rcases Selection.holds_of_select active with rfl | before
      · exact .inr ⟨store, here⟩
      · exact .inl before
    · exact .inl before
  | restored =>
    rcases holds_of_withSelection held with ⟨rfl, kept⟩ | before
    · exact .inl (Selection.holds_of_restore kept)
    · exact .inl before
  | told | served | passedEnd | failed => exact .inl held

theorem Transition.not_holds_closed {after : Session} {reply : Reply}
    (moved : session.Transition (.close number handle) (.ok reply) after) :
    ¬(after.selections number).Holds handle := by
  intro held
  cases moved with
  | closed =>
    rw [selections_withSelection, if_pos rfl] at held
    exact (Selection.holds_forget_iff.mp held).1 rfl
  | served asks => cases asks

/-! ## Runs -/

theorem isOpen_or_opened {exchange : Exchange} {registry after : Registry}
    (moves : exchange.Moves registry after) (isOpen : after.IsOpen handle) :
    registry.IsOpen handle ∨ exchange.opened? = some handle := by
  cases moves with
  | opened gives _ _ _ opens =>
    rcases (opens handle).mp isOpen with rfl | before
    · exact .inr gives
    · exact .inl before
  | closed _ _ _ _ opens => exact .inl ((opens handle).mp isOpen).2
  | kept _ _ _ opens => exact .inl ((opens handle).mp isOpen)

theorem issued_of_holds_serveAll (h : session.registry.IsSound) (requests : List Request)
    (held : ((session.serveAll requests).selections number).Holds handle) :
    (session.selections number).Holds handle ∨ session.registry.IsOpen handle ∨
      handle ∈ issuedHandles (session.exchanges requests) := by
  induction requests generalizing session with
  | nil => exact .inl held
  | cons request rest ih =>
    rw [exchanges, issuedHandles_cons, List.mem_append, Option.mem_toList]
    have opened : (session.serve request).2.registry.IsOpen handle → _ :=
      isOpen_or_opened (moves_serve h request)
    rcases ih (isSound_serve h request) held with holds | isOpen | later
    · rcases (transition_serve h.ordered request).holds holds with before | isOpen
      · exact .inl before
      · exact .inr ((opened isOpen).imp_right .inl)
    · exact .inr ((opened isOpen).imp_right .inl)
    · exact .inr (.inr (.inr later))

def HoldsOpen (session : Session) (number : Nat) : Prop :=
  ∀ handle, (session.selections number).Holds handle → session.registry.IsOpen handle

/-- Stores are closed through this selection only. -/
def ClosesThrough (number : Nat) (call : Call) : Prop :=
  ∀ other handle, call = .close other handle → other = number

theorem Transition.holdsOpen {after : Session} {call : Call} {answer : Except StoreError Reply}
    (moved : session.Transition call answer after) (before : session.HoldsOpen number)
    (own : ClosesThrough number call) : after.HoldsOpen number := by
  intro handle held
  rcases moved.holds held with holds | isOpen
  · have isOpen := before handle holds
    cases moves_of_transition moved with
    | opened _ _ _ _ opens => exact (opens handle).mpr (.inr isOpen)
    | kept _ _ _ opens => exact (opens handle).mpr isOpen
    | closed _ closes _ _ opens =>
      refine (opens handle).mpr ⟨?_, isOpen⟩
      rintro rfl
      -- The store was closed through this selection, which has forgotten it.
      unfold Exchange.closed? at closes
      split at closes
      · next same =>
        cases same
        cases closes
        cases own _ _ rfl
        exact moved.not_holds_closed held
      · cases closes
  · exact isOpen

theorem holdsOpen_serveAll (h : session.registry.IsSound) (before : session.HoldsOpen number)
    (own : ∀ request ∈ requests, ClosesThrough number request.call) :
    (session.serveAll requests).HoldsOpen number :=
  serveAll_induction (p := (·.HoldsOpen number)) h before fun {session request} mem sound holds =>
    have found : (session.given request).HoldsOpen number := holds
    (transition_serve sound.ordered request).holdsOpen found (own request mem)

/-! ## Asking for the current store -/

theorem answer_current (session : Session) (number : Nat) :
    (session.run (.current number)).1 =
      match (session.selections number).active with
      | none => .error .noCurrentStore
      | some handle => (session.registry.store handle).map fun _ => .handle handle := by
  rw [run, Registry.current]
  cases (session.selections number).active with
  | none => rfl
  | some handle =>
    dsimp only
    cases session.registry.store handle <;> rfl

theorem current_eq_handle_iff :
    (session.run (.current number)).1 = .ok (.handle handle) ↔
      (session.selections number).active = some handle ∧ session.registry.IsOpen handle := by
  rw [answer_current]
  cases (session.selections number).active with
  | none => simp
  | some active =>
    simp only [map_eq_ok_iff, Reply.handle.injEq, Option.some.injEq, Registry.IsOpen]
    constructor
    · rintro ⟨store, here, rfl⟩
      exact ⟨rfl, store, here⟩
    · rintro ⟨rfl, store, here⟩
      exact ⟨store, here, rfl⟩

theorem current_eq_none_iff :
    (session.run (.current number)).1 = .error .noCurrentStore ↔
      (session.selections number).active = none := by
  rw [answer_current]
  cases (session.selections number).active with
  | none => simp
  | some active =>
    dsimp only
    cases unknown : session.registry.store active with
    | ok store => simp [Except.map]
    | error error =>
      obtain ⟨-, rfl⟩ := Registry.store_eq_error_iff.mp unknown
      simp [Except.map]

theorem current_eq_unknown_iff {n : Nat} :
    (session.run (.current number)).1 = .error (.unknownHandle n) ↔
      ∃ handle, (session.selections number).active = some handle ∧ handle.value.toNat = n ∧
        ¬session.registry.IsOpen handle := by
  rw [answer_current]
  cases (session.selections number).active with
  | none => simp
  | some active =>
    dsimp only
    cases unknown : session.registry.store active with
    | ok store =>
      have isOpen : session.registry.IsOpen active := ⟨store, unknown⟩
      simp [Except.map, isOpen]
    | error error =>
      obtain ⟨closed, rfl⟩ := Registry.store_eq_error_iff.mp unknown
      simp [Except.map, closed]

theorem issued_and_closed_iff_of_holds (files : FileSystem) (settings : Settings)
    (destination : Bytes) (requests : List Request) :
    let session := Session.new files settings destination
    let last := session.serveAll requests
    (last.selections number).Holds handle →
      handle ∈ issuedHandles (session.exchanges requests) ∧
      (handle ∈ closedHandles (session.exchanges requests) ↔ ¬last.registry.IsOpen handle) := by
  intro session last held
  have sound : session.registry.IsSound := Registry.isSound_new settings
  have empty : ¬session.registry.IsOpen handle := by
    rintro ⟨store, ⟨⟩⟩
  have issued : handle ∈ issuedHandles (session.exchanges requests) := by
    rcases issued_of_holds_serveAll sound requests held with before | isOpen | issued
    · exact absurd before Selection.not_holds_new
    · exact absurd isOpen empty
    · exact issued
  refine ⟨issued, ?_⟩
  rw [isOpen_serveAll_iff sound]
  simp [issued]

/-- A selected handle was answered by one open, and is current exactly while it is open. -/
theorem current_run (files : FileSystem) (settings : Settings) (destination : Bytes)
    (requests : List Request) :
    let session := Session.new files settings destination
    let past := session.exchanges requests
    let last := session.serveAll requests
    (∀ number handle, (last.selections number).Holds handle → handle ∈ issuedHandles past) ∧
    (∀ number,
      let answer := (last.run (.current number)).1
      let active := (last.selections number).active
      (∀ handle, answer = .ok (.handle handle) ↔
        active = some handle ∧ last.registry.IsOpen handle) ∧
      (answer = .error .noCurrentStore ↔ active = none) ∧
      ∀ n, answer = .error (.unknownHandle n) ↔
        ∃ handle, active = some handle ∧ handle.value.toNat = n ∧ handle ∈ closedHandles past) ∧
    (∀ handle store, last.registry.store handle = .ok store →
      ∃ opening : Opening session requests handle,
        (∀ other, opening = other) ∧ opening.Made settings store) ∧
    ∀ number, (∀ request ∈ requests, ClosesThrough number request.call) →
      last.HoldsOpen number ∧
      ∀ n, (last.run (.current number)).1 ≠ .error (.unknownHandle n) := by
  intro session past last
  have sound : session.registry.IsSound := Registry.isSound_new settings
  refine ⟨?_, ?_, ?_, ?_⟩
  · intro number handle held
    exact (issued_and_closed_iff_of_holds files settings destination requests held).1
  · intro number answer active
    refine ⟨fun handle => current_eq_handle_iff, current_eq_none_iff, fun n => ?_⟩
    rw [current_eq_unknown_iff]
    refine exists_congr fun handle => and_congr_right fun isActive => and_congr_right fun _ => ?_
    exact (issued_and_closed_iff_of_holds files settings destination requests (.inl isActive)).2.symm
  · -- Nothing is open in a new session, so some request of the run was answered this handle.
    intro handle store held
    have issued := ((isOpen_serveAll_iff sound requests handle).mp ⟨store, held⟩).1
    rcases issued with ⟨_, ⟨⟩⟩ | issued
    obtain ⟨opening⟩ := exists_opening issued
    exact ⟨opening, opening.unique sound, opening.made sound held⟩
  · -- Every close clears its handle from this selection.
    intro number own
    have start : session.HoldsOpen number := fun _ held => absurd held Selection.not_holds_new
    have holds := holdsOpen_serveAll sound start own
    refine ⟨holds, fun n unknown => ?_⟩
    obtain ⟨handle, isActive, -, closed⟩ := current_eq_unknown_iff.mp unknown
    exact closed (holds handle (.inl isActive))

def sampleShared : List Request :=
  [⟨.empty [], [], .openStore 0 "NEW" none 2⟩, ⟨.empty [], [], .select 1 ⟨1⟩⟩]

def sampleClosed : List Request := sampleShared ++ [⟨.empty [], [], .close 0 ⟨1⟩⟩]

/-- The second selection is told that the store was closed through the first. -/
theorem current_run_sample :
    let shared := (Session.new (.empty []) {} []).serveAll sampleShared
    let last := (Session.new (.empty []) {} []).serveAll sampleClosed
    (shared.run (.current 0)).1 = .ok (.handle ⟨1⟩) ∧
      (shared.run (.current 1)).1 = .ok (.handle ⟨1⟩) ∧
      (∃ store, shared.registry.store ⟨1⟩ = .ok store ∧ store.name = "NEW" ∧
        ∃ opening : Opening (.new (.empty []) {} []) sampleShared ⟨1⟩, opening.Made {} store) ∧
      (last.run (.current 0)).1 = .error .noCurrentStore ∧
      (last.run (.current 1)).1 = .error (.unknownHandle 1) ∧ last.HoldsOpen 0 := by
  intro shared last
  have named : (shared.registry.store ⟨1⟩).map Store.name = .ok "NEW" := rfl
  obtain ⟨store, here, name⟩ := map_eq_ok_iff.mp named
  obtain ⟨-, told, origin, -⟩ := current_run (.empty []) {} [] sampleShared
  obtain ⟨-, answers, -, single⟩ := current_run (.empty []) {} [] sampleClosed
  obtain ⟨opening, -, made⟩ := origin ⟨1⟩ store here
  refine ⟨?_, ?_, ⟨store, here, name, opening, made⟩, ?_, ?_, (single 0 ?_).1⟩
  · exact ((told 0).1 ⟨1⟩).mpr ⟨rfl, store, here⟩
  · exact ((told 1).1 ⟨1⟩).mpr ⟨rfl, store, here⟩
  · exact (answers 0).2.1.mpr rfl
  · exact ((answers 1).2.2 1).mpr ⟨⟨1⟩, rfl, rfl, List.mem_singleton.mpr rfl⟩
  · simp [sampleClosed, sampleShared, ClosesThrough]

end Session

end RecordFile
