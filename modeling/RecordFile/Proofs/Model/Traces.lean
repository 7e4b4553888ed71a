import RecordFile.Model.Comparison
import RecordFile.Proofs.Model.Stores
import RecordFile.Proofs.Session.Registry

/-! # The registry cannot be told from the model

Asked the same record calls, both give the same answers, leave the same bytes in the buffer and show
the same store.
-/

namespace RecordFile

/-! ## What is seen -/

structure View where
  rows : List Bytes
  count : Nat
  position : Nat
  deriving DecidableEq, Repr

def Store.view (store : Store) : View where
  rows := store.records.rows
  count := store.count.toNat
  position := store.position

def Model.view (model : Model) : View where
  rows := model.rows
  count := model.rows.length
  position := model.position

structure Observation where
  answer : Except StoreError Reply
  buffer : Bytes
  view : Except StoreError View

def Session.view (session : Session) (handle : Handle) : Except StoreError View :=
  (session.registry.store handle).map Store.view

/-- Each call brings its own buffer. -/
def Session.trace (session : Session) (handle : Handle) :
    List (Model.Operation × Bytes) → List Observation
  | [] => []
  | (operation, buffer) :: rest =>
    let (answer, session) :=
      { session with destination := buffer }.run (Comparison.callOf handle operation)
    { answer, buffer := session.destination, view := session.view handle } ::
      session.trace handle rest

namespace Model

/-- Without a copied record the buffer is not touched. -/
def bufferAfter (buffer : Bytes) : Except StoreError Answer → Bytes
  | .ok answer => answer.copied?.getD buffer
  | .error _ => buffer

def trace (model : Model) : List (Operation × Bytes) → List Observation
  | [] => []
  | (operation, buffer) :: rest =>
    let (answer, model) := model.apply operation
    { answer := answer.map Comparison.replyOf, buffer := bufferAfter buffer answer,
      view := .ok model.view } :: model.trace rest

/-! ## One step -/

/-- The model describes the plain store under the handle. -/
def Describes (model : Model) (session : Session) (handle : Handle) : Prop :=
  ∃ store, session.registry.store handle = .ok store ∧ IsPlain store ∧ ofStore store = model

/-- The call came out as the model says, which still describes the session. -/
structure Agrees (handle : Handle) (buffer : Bytes) (ran : Except StoreError Reply × Session)
    (expected : Except StoreError Answer × Model) : Prop where
  answer_eq : ran.1 = expected.1.map Comparison.replyOf
  destination_eq : ran.2.destination = bufferAfter buffer expected.1
  describes : expected.2.Describes ran.2 handle

variable {session : Session} {handle : Handle} {store : Store}

theorem describes_withStore (plain : IsPlain store) (session : Session) :
    (ofStore store).Describes (session.withStore handle store) handle :=
  ⟨store, Registry.store_withStore _ _ _, plain, rfl⟩

theorem agrees_settle (here : session.registry.store handle = .ok store) (plain : IsPlain store)
    {outcome : Except StoreError Store} {expected : Except StoreError Model}
    (same : outcome.map ofStore = expected)
    (keeps : ∀ changed, outcome = .ok changed → IsPlain changed) :
    Agrees handle session.destination
      (session.settle (outcome.map (.done, session.withStore handle ·)))
      ((ofStore store).settle expected) := by
  subst same
  cases outcome with
  | error error => exact ⟨rfl, rfl, store, here, plain, rfl⟩
  | ok changed => exact ⟨rfl, rfl, describes_withStore (keeps changed rfl) session⟩

section Positioned

variable {move : Store → Status × Store} {cursor : Cursor}

theorem agrees_found (here : session.registry.store handle = .ok store) (plain : IsPlain store)
    (found : move store = (.found, { store with cursor })) {row : Bytes}
    (inside : store.records.rows[cursor.position]? = some row) :
    Agrees handle session.destination
      (session.positioned (session.registry.positionWith handle move session.destination))
      (.ok { status? := some .found, copied? := some row },
        { ofStore store with position := cursor.position }) := by
  have current : Store.current { store with cursor } = .ok row := by
    simp [Store.current, Store.get, Store.position, Records.get, inside]
  rw [Session.positioned_found here found current]
  exact ⟨rfl, rfl, describes_withStore (plain.withCursor cursor) session⟩

theorem agrees_outside (here : session.registry.store handle = .ok store) (plain : IsPlain store)
    (found : move store = (.found, { store with cursor }))
    (outside : store.records.rows[cursor.position]? = none) :
    Agrees handle session.destination
      (session.positioned (session.registry.positionWith handle move session.destination))
      (.error (.indexOutOfRange cursor.position store.records.rows.length),
        { ofStore store with position := cursor.position }) := by
  have failed : Store.current { store with cursor } =
      .error (.indexOutOfRange cursor.position store.records.rows.length) := by
    simp [Store.current, Store.get, Store.position, Records.get, Records.count, outside]
  rw [Session.positioned_outside here found failed]
  exact ⟨rfl, rfl, describes_withStore (plain.withCursor cursor) session⟩

theorem agrees_notFound (here : session.registry.store handle = .ok store) (plain : IsPlain store)
    (lost : move store = (.notFound, { store with cursor })) :
    Agrees handle session.destination
      (session.positioned (session.registry.positionWith handle move session.destination))
      (.ok { status? := some .notFound }, { ofStore store with position := cursor.position }) := by
  rw [Session.positioned_notFound here lost]
  exact ⟨rfl, rfl, describes_withStore (plain.withCursor cursor) session⟩

end Positioned

theorem agrees_stepFirst (here : session.registry.store handle = .ok store)
    (plain : IsPlain store) :
    Agrees handle session.destination (session.run (.step handle .first))
      ((ofStore store).apply .stepFirst) := by
  cases rows : store.records.rows with
  | nil =>
    have lost : store.stepFirst = (.notFound, { store with cursor := ⟨0⟩ }) := by
      simp [Store.stepFirst, Cursor.stepFirst, Records.count, rows, Status.ofBool]
    have expected : (ofStore store).apply .stepFirst =
        (.ok { status? := some .notFound }, { ofStore store with position := 0 }) := by
      simp [apply, stepFirst, ofStore, rows]
    rw [expected]
    exact agrees_notFound here plain lost
  | cons row rest =>
    have found : store.stepFirst = (.found, { store with cursor := ⟨0⟩ }) := by
      simp [Store.stepFirst, Cursor.stepFirst, Records.count, rows, Status.ofBool]
    have expected : (ofStore store).apply .stepFirst =
        (.ok { status? := some .found, copied? := some row },
          { ofStore store with position := 0 }) := by
      simp [apply, stepFirst, ofStore, rows]
    rw [expected]
    exact agrees_found here plain found (by simp [rows])

theorem agrees_stepNext (here : session.registry.store handle = .ok store)
    (plain : IsPlain store) :
    Agrees handle session.destination (session.run (.step handle .next))
      ((ofStore store).apply .stepNext) := by
  have found : store.stepNext =
      (.found, { store with cursor := ⟨min (store.position + 1) Cursor.maxPosition⟩ }) := rfl
  cases row? : store.records.rows[min (store.position + 1) Cursor.maxPosition]? with
  | none =>
    have expected : (ofStore store).apply .stepNext =
        (.error (.indexOutOfRange (min (store.position + 1) Cursor.maxPosition)
          store.records.rows.length),
          { ofStore store with position := min (store.position + 1) Cursor.maxPosition }) := by
      simp [apply, stepNext, ofStore, row?]
    rw [expected]
    exact agrees_outside here plain found row?
  | some row =>
    have expected : (ofStore store).apply .stepNext =
        (.ok { status? := some .found, copied? := some row },
          { ofStore store with position := min (store.position + 1) Cursor.maxPosition }) := by
      simp [apply, stepNext, ofStore, row?]
    rw [expected]
    exact agrees_found here plain found row?

theorem agrees_seek (here : session.registry.store handle = .ok store) (plain : IsPlain store)
    (key : Bytes) :
    Agrees handle session.destination (session.run (.seek handle key))
      ((ofStore store).apply (.seek key)) := by
  rw [Session.run_seek here, findLeading_eq]
  cases index? : indexOfKey? key store.records.rows with
  | none =>
    have expected : (ofStore store).apply (.seek key) =
        (.ok { status? := some .notFound }, ofStore store) := by
      simp [apply, seek, ofStore, index?]
    rw [expected]
    exact ⟨rfl, rfl, describes_withStore plain session⟩
  | some index =>
    have expected : (ofStore store).apply (.seek key) =
        (.ok { status? := some .found }, { ofStore store with position := index }) := by
      simp [apply, seek, ofStore, index?]
    rw [expected]
    exact ⟨rfl, rfl, describes_withStore (plain.withCursor ⟨index⟩) session⟩

theorem agrees_lookUp (here : session.registry.store handle = .ok store) (plain : IsPlain store)
    (key : Bytes) (number : UInt16) :
    Agrees handle session.destination (session.run (.lookUp handle key number .equal))
      ((ofStore store).apply (.lookUp key number)) := by
  have sought := findEqual_eq plain number key
  cases index? : indexOfKey? key store.records.rows with
  | none =>
    have expected : (ofStore store).apply (.lookUp key number) =
        (.ok { status? := some .notFound }, ofStore store) := by
      simp [apply, lookUp, ofStore, index?]
    rw [index?] at sought
    rw [expected]
    exact agrees_notFound here plain sought
  | some index =>
    obtain ⟨row, inside⟩ := exists_row_of_indexOfKey? index?
    have expected : (ofStore store).apply (.lookUp key number) =
        (.ok { status? := some .found, copied? := some row },
          { ofStore store with position := index }) := by
      simp [apply, lookUp, ofStore, index?, inside]
    rw [index?] at sought
    rw [expected]
    exact agrees_found here plain sought inside

theorem Describes.agrees {model : Model} (describes : model.Describes session handle)
    (operation : Operation) :
    Agrees handle session.destination (session.run (Comparison.callOf handle operation))
      (model.apply operation) := by
  obtain ⟨store, here, plain, rfl⟩ := describes
  cases operation with
  | insert record =>
    rw [Comparison.callOf, Session.run_insert here]
    exact agrees_settle here plain (map_insertHere plain record) fun _ => plain.insertHere
  | update record =>
    rw [Comparison.callOf, Session.run_update here]
    exact agrees_settle here plain (map_updateHere store record) fun _ => plain.updateHere
  | stepFirst => exact agrees_stepFirst here plain
  | stepNext => exact agrees_stepNext here plain
  | seek key => exact agrees_seek here plain key
  | lookUp key number => exact agrees_lookUp here plain key number

/-! ## Runs -/

theorem Describes.view {model : Model} (describes : model.Describes session handle) :
    session.view handle = .ok model.view := by
  obtain ⟨store, here, plain, rfl⟩ := describes
  rw [Session.view, here]
  exact congrArg (Except.ok <| View.mk store.records.rows · store.position) plain.count_eq

theorem Describes.trace {model : Model} (describes : model.Describes session handle)
    (asked : List (Operation × Bytes)) : session.trace handle asked = model.trace asked := by
  induction asked generalizing session model with
  | nil => rfl
  | cons call rest ih =>
    obtain ⟨operation, buffer⟩ := call
    -- The buffer is the caller's, so the session is described whatever it holds.
    have given : model.Describes { session with destination := buffer } handle := describes
    have agrees := given.agrees operation
    rw [Session.trace, Model.trace]
    simp only [agrees.answer_eq, agrees.destination_eq, agrees.describes.view,
      ih agrees.describes]

/-! ## The opened store -/

/-- As many rows as the image says. -/
def rowsIn (image : Bytes) (recordLength dataOffset : Nat) : List Bytes :=
  let count := (Bytes.word (image.getD 0x1C 0) (image.getD 0x1D 0)).toNat
  (List.range count).map fun i => (image.drop (dataOffset + recordLength * i)).take recordLength

def ofImage (image? : Option Bytes) (recordLength dataOffset : Nat) : Model where
  recordLength
  rows :=
    match image? with
    | some image => rowsIn image recordLength dataOffset
    | none => []

variable {name : String} {image? : Option Bytes} {recordLength : UInt16} {settings : Settings}

theorem rows_of_openFrom {image : Bytes}
    (opened : Store.openFrom name (some image) recordLength settings = .ok store) :
    store.records.rows = rowsIn image recordLength.toNat settings.dataOffset := by
  have declared : (store.header.get .recordCount).toNat = _ :=
    congrArg UInt16.toNat (Store.openedValue_eq opened .recordCount)
  obtain ⟨-, room, records, loaded, rfl⟩ := Store.ofImage_eq_ok_iff.mp opened
  obtain ⟨-, -, -, rows⟩ := Records.load_eq_ok_iff.mp loaded
  unfold rowsIn
  rw [rows, Bytes.pieces_eq_map_range]
  simp only [List.drop_drop]
  rw [show (HeaderImage.get ⟨image, room⟩ .recordCount).toNat = _ from declared]
  rfl

theorem ofStore_of_openFrom
    (opened : Store.openFrom name image? recordLength settings = .ok store) :
    ofStore store = ofImage image? recordLength.toNat settings.dataOffset := by
  have length := Store.rowLength_of_openFrom opened
  have first : store.position = 0 :=
    congrArg Cursor.position (Store.settled_of_openFrom opened).2.2.2.2.2
  unfold ofStore ofImage
  rw [length, first]
  cases image? with
  | none =>
    obtain ⟨-, rfl⟩ := Store.new_eq_ok_iff.mp opened
    rfl
  | some image => rw [rows_of_openFrom opened]

/-- An opened store and its model show the same along every run. -/
theorem trace_eq (opened : Store.openFrom name image? recordLength settings = .ok store)
    (here : session.registry.store handle = .ok store) (asked : List (Operation × Bytes)) :
    let model := ofImage image? recordLength.toNat settings.dataOffset
    session.view handle = .ok model.view ∧ session.trace handle asked = model.trace asked := by
  have describes : Describes _ session handle :=
    ⟨store, here, isPlain_of_openFrom opened, ofStore_of_openFrom opened⟩
  exact ⟨describes.view, describes.trace asked⟩

def sampleSession : Session :=
  { Session.new (.empty []) Store.sampleSettings [] with
    registry := (Registry.new Store.sampleSettings).withStore ⟨1⟩ Store.sample }

theorem trace_eq_sample :
    let asked : List (Operation × Bytes) := [(.insert [67, 68], []), (.stepNext, [1]),
      (.stepNext, [2]), (.insert [69, 70], []), (.lookUp [67] 5, []), (.update [71, 72], [])]
    let model := ofImage (some Store.sampleImage) 2 0x1E
    Store.openFrom "SAMPLE" (some Store.sampleImage) 2 Store.sampleSettings = .ok Store.sample ∧
      sampleSession.registry.store ⟨1⟩ = .ok Store.sample ∧
      sampleSession.view ⟨1⟩ = .ok model.view ∧
      sampleSession.trace ⟨1⟩ asked = model.trace asked := by
  intro asked model
  have here : sampleSession.registry.store ⟨1⟩ = .ok Store.sample := rfl
  obtain ⟨view, trace⟩ := trace_eq Store.openFrom_sample here asked
  exact ⟨Store.openFrom_sample, here, view, trace⟩

end Model

/-! ## The comparison -/

namespace Comparison

variable {comparison : Comparison}

theorem agrees_ofStore {store : Store} (plain : Model.IsPlain store) :
    agrees (Model.ofStore store) store = true := by
  have count : store.count.toNat = store.records.rows.length := plain.count_eq
  simp [agrees, Model.ofStore, count]

theorem sameAnswer_map {answer : Except StoreError Model.Answer}
    (room : answer ≠ .error .storeFull) : sameAnswer (answer.map replyOf) answer = true := by
  cases answer with
  | ok answer => simp [sameAnswer, Except.map]
  | error error => simpa [sameAnswer, Except.map] using room

theorem bufferAfter_nil (answer : Except StoreError Model.Answer) :
    Model.bufferAfter [] answer = copiedBy answer := by
  cases answer <;> rfl

/-- A comparison goes on until the store is full. -/
theorem exists_step?_eq_some
    (describes : comparison.model.Describes comparison.session comparison.handle)
    {operation : Model.Operation}
    (room : (comparison.model.apply operation).1 ≠ .error .storeFull) :
    ∃ next, comparison.step? operation = some next ∧
      next.model.Describes next.session next.handle := by
  have given : comparison.model.Describes { comparison.session with destination := [] }
      comparison.handle := describes
  have agrees := given.agrees operation
  obtain ⟨store, here, plain, described⟩ := agrees.describes
  unfold step?
  simp only [here, agrees.answer_eq, agrees.destination_eq, bufferAfter_nil, sameAnswer_map room,
    ← described, agrees_ofStore plain, beq_self_eq_true, Bool.and_self, if_true]
  exact ⟨_, rfl, store, here, plain, rfl⟩

end Comparison

end RecordFile
