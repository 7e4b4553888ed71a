import RecordFile.Proofs.Session.InPlace
import RecordFile.Proofs.Session.Reachable

/-! # Calls that fail

A call that fails leaves the whole session as it was. A step past the last record is the one
exception, and all that it changes is a cursor.
-/

namespace RecordFile.Session

/-- The cursor moved on by one, and nothing else changed. -/
structure PassesEnd (session : Session) (handle : Handle) (store : Store) (error : StoreError)
    (after : Session) : Prop where
  before : session.registry.store handle = .ok store
  outside : store.records.count ≤ min (store.position + 1) Cursor.maxPosition
  error_eq : error =
    .indexOutOfRange (min (store.position + 1) Cursor.maxPosition) store.records.count
  moved : after.registry.store handle =
    .ok { store with cursor := ⟨min (store.position + 1) Cursor.maxPosition⟩ }
  others : ∀ other, other ≠ handle → after.registry.store other = session.registry.store other
  nextHandle_eq : after.registry.nextHandle = session.registry.nextHandle
  settings_eq : after.registry.settings = session.registry.settings
  selections_eq : after.selections = session.selections
  destination_eq : after.destination = session.destination
  files_eq : after.files = session.files

variable {session : Session} {handle : Handle} {store : Store}

theorem passesEnd_withStore (here : session.registry.store handle = .ok store)
    (outside : store.records.count ≤ store.stepNext.2.position) :
    PassesEnd session handle store
      (.indexOutOfRange store.stepNext.2.position store.records.count)
      (session.withStore handle store.stepNext.2) where
  before := here
  outside := outside
  error_eq := rfl
  moved := Registry.store_withStore _ _ _
  others := fun _ apart => Registry.store_withStore_of_ne apart _ _
  nextHandle_eq := rfl
  settings_eq := rfl
  selections_eq := rfl
  destination_eq := rfl
  files_eq := rfl

theorem Transition.error_cases {call : Call} {error : StoreError} {after : Session}
    (h : session.Transition call (.error error) after) :
    (¬session.StepsOn call ∧ after = session) ∨
    ∃ handle store, call = .step handle .next ∧ PassesEnd session handle store error after := by
  cases h with
  | failed still => exact .inl ⟨still, rfl⟩
  | passedEnd here outside => exact .inr ⟨_, _, rfl, passesEnd_withStore here outside⟩

theorem Transition.passesEnd {error : StoreError} {after : Session}
    (h : session.Transition (.step handle .next) (.error error) after)
    (here : session.registry.store handle = .ok store) :
    PassesEnd session handle store error after := by
  rcases h.error_cases with ⟨still, -⟩ | ⟨_, other, ⟨⟩, passes⟩
  · exact absurd ⟨handle, store, rfl, here⟩ still
  · cases here.symm.trans passes.before
    exact passes

theorem Transition.eq_of_error {call : Call} {error : StoreError} {after : Session}
    (h : session.Transition call (.error error) after) (still : ¬session.StepsOn call) :
    after = session := by
  rcases h.error_cases with ⟨-, same⟩ | ⟨handle, store, rfl, passes⟩
  · exact same
  · exact absurd ⟨handle, store, rfl, passes.before⟩ still

/-- Only a step past the end of an open store changes anything when it fails. -/
theorem run_error_cases (reachable : session.registry.Reachable) :
    (∀ call, InPlace.run call session = session.run call) ∧
    (∀ handle store error, session.registry.store handle = .ok store →
      (session.run (.step handle .next)).1 = .error error →
      PassesEnd session handle store error (session.run (.step handle .next)).2) ∧
    (∀ call error, ¬session.StepsOn call → (session.run call).1 = .error error →
      (session.run call).2 = session) ∧
    ∀ handle store, session.registry.store handle = .ok store →
      (∃ status, (session.run (.step handle .first)).1 = .ok (.status status)) ∧
      (∀ key, ∃ status, (session.run (.seek handle key)).1 = .ok (.status status)) ∧
      ∀ key number option,
        ∃ status, (session.run (.lookUp handle key number option)).1 = .ok (.status status) := by
  have ordered := reachable.isSound.ordered
  have failing : ∀ {call error}, (session.run call).1 = .error error →
      session.Transition call (.error error) (session.run call).2 := by
    intro call error failed
    have moved := transition_run ordered call
    rwa [failed] at moved
  refine ⟨InPlace.run_eq ordered, ?_, ?_, ?_⟩
  · intro handle store error here failed
    exact (failing failed).passesEnd here
  · intro call error still failed
    exact (failing failed).eq_of_error still
  · intro handle store here
    refine ⟨?_, ?_, ?_⟩
    · obtain ⟨_, ran⟩ := exists_run_stepFirst here
      exact ⟨_, congrArg Prod.fst ran⟩
    · intro key
      exact ⟨_, congrArg Prod.fst (run_seek here key)⟩
    · intro key number option
      cases option
      obtain ⟨_, ran⟩ := exists_run_lookUp here key number
      exact ⟨_, congrArg Prod.fst ran⟩

def sampleOpened : Session :=
  ((Session.new (.empty []) {} [7]).run (.openStore 0 "NEW" none 2)).2

theorem reachable_sampleOpened : sampleOpened.registry.Reachable := .run _ (.new _)

theorem run_error_cases_sample :
    let stepped := (sampleOpened.run (.step ⟨1⟩ .next)).2
    sampleOpened.registry.Reachable ∧
      (sampleOpened.run (.insert ⟨1⟩ [65])).1 = .error (.lengthMismatch 2 1) ∧
      (sampleOpened.run (.insert ⟨1⟩ [65])).2 = sampleOpened ∧
      (sampleOpened.run (.step ⟨1⟩ .next)).1 = .error (.indexOutOfRange 1 0) ∧
      stepped.registry.store ⟨1⟩ =
        (sampleOpened.registry.store ⟨1⟩).map (fun store => { store with cursor := ⟨1⟩ }) ∧
      stepped.destination = [7] := by
  intro stepped
  obtain ⟨-, passes, keeps, -⟩ := run_error_cases reachable_sampleOpened
  have refused : (sampleOpened.run (.insert ⟨1⟩ [65])).1 = .error (.lengthMismatch 2 1) := rfl
  have passed : (sampleOpened.run (.step ⟨1⟩ .next)).1 = .error (.indexOutOfRange 1 0) := rfl
  obtain ⟨store, here⟩ : ∃ store, sampleOpened.registry.store ⟨1⟩ = .ok store := ⟨_, rfl⟩
  have still : ¬sampleOpened.StepsOn (.insert ⟨1⟩ [65]) := by rintro ⟨_, _, ⟨⟩, _⟩
  have moved := passes ⟨1⟩ store _ here passed
  exact ⟨reachable_sampleOpened, refused, keeps _ _ still refused, passed, rfl,
    moved.destination_eq⟩

end RecordFile.Session
