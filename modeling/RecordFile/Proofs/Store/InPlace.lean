import Mathlib.Data.List.InsertIdx
import Mathlib.Data.List.Nodup
import RecordFile.Store.Operation

/-! # Changes in place

Every part of a store is changed where it stands, and nothing is put back when a step fails.
-/

namespace RecordFile

/-- What was done before a step fails stays done. -/
abbrev Steps (σ α : Type) := ExceptT StoreError (StateM σ) α

namespace Steps

variable {σ τ α β : Type}

@[simp] theorem pure_eq (value : α) (state : σ) :
    (pure value : Steps σ α) state = (.ok value, state) := rfl

@[simp] theorem get_eq (state : σ) : (get : Steps σ σ) state = (.ok state, state) := rfl

@[simp] theorem modify_eq (change : σ → σ) (state : σ) :
    (modify change : Steps σ PUnit) state = (.ok ⟨⟩, change state) := rfl

@[simp] theorem modifyGet_eq (move : σ → α × σ) (state : σ) :
    (modifyGet move : Steps σ α) state = (.ok (move state).1, (move state).2) := rfl

@[simp] theorem ofExcept_eq (outcome : Except StoreError α) (state : σ) :
    (ofExcept outcome : Steps σ α) state = (outcome, state) := by
  cases outcome <;> rfl

@[simp] theorem bind_eq (steps : Steps σ α) (next : α → Steps σ β) (state : σ) :
    (steps >>= next) state =
      match steps state with
      | (.ok value, changed) => next value changed
      | (.error error, changed) => (.error error, changed) := by
  change (ExceptT.bind steps next) state = _
  unfold ExceptT.bind ExceptT.mk ExceptT.bindCont
  change (StateT.bind steps _) state = _
  unfold StateT.bind
  simp only [bind, pure]
  rcases steps state with ⟨_ | _, _⟩ <;> rfl

def within (part : σ → τ) (replace : σ → τ → σ) (steps : Steps τ α) : Steps σ α := fun state =>
  let (result, changed) := steps (part state)
  (result, replace state changed)

/-- A changed state, or the error and the state as it was. -/
def settled (outcome : Except StoreError σ) (state : σ) : Except StoreError Unit × σ :=
  match outcome with
  | .ok changed => (.ok (), changed)
  | .error error => (.error error, state)

theorem within_eq_settled {part : σ → τ} {replace : σ → τ → σ} {steps : Steps τ Unit}
    {outcome : Except StoreError τ} {state : σ} (same : replace state (part state) = state)
    (settles : steps (part state) = settled outcome (part state)) :
    within part replace steps state = settled (outcome.map (replace state)) state := by
  unfold within
  rw [settles]
  cases outcome with
  | error error => exact congrArg (Prod.mk _) same
  | ok changed => rfl

end Steps

namespace InPlace

open Steps

/-! ## Records and keys -/

def insertRow (index : Nat) (data : Bytes) : Steps Records Unit := do
  let records ← get
  if fits : data.length = records.recordLength then
    if records.count < index then
      throw (.indexOutOfRange index records.count)
    if maxRecords ≤ records.count then
      throw .storeFull
    set { records with
      rows := records.rows.insertIdx index data
      uniform := by
        intro row mem
        rcases List.eq_or_mem_of_mem_insertIdx mem with rfl | old
        · exact fits
        · exact records.uniform row old }
  else throw (.lengthMismatch records.recordLength data.length)

def updateRow (index : Nat) (data : Bytes) : Steps Records Unit := do
  let records ← get
  if fits : data.length = records.recordLength then
    if records.rows.isEmpty ∧ index = 0 then
      set { records with rows := [data], uniform := by simpa using fits }
    else
      if records.count ≤ index then
        throw (.indexOutOfRange index records.count)
      set { records with
        rows := records.rows.set index data
        uniform := by
          intro row mem
          rcases List.mem_or_eq_of_mem_set mem with old | rfl
          · exact records.uniform row old
          · exact fits }
  else throw (.lengthMismatch records.recordLength data.length)

def pushKey (key : Key) : Steps Keys Unit := do
  let keys ← get
  if new : keys.get? key.number = none then
    set {
      toList := keys.toList ++ [key]
      distinct := by
        have fresh := List.Nodup.concat (Keys.get?_eq_none_iff.mp new) keys.distinct
        simpa [List.concat_eq_append] using fresh : Keys }
  else throw (.duplicateKey key.number.toNat)

theorem insertRow_eq (records : Records) (index : Nat) (data : Bytes) :
    insertRow index data records = settled (records.insert index data) records := by
  unfold insertRow Records.insert
  simp only [bind_eq, get_eq]
  split
  · split
    · rfl
    · split <;> rfl
  · rfl

theorem updateRow_eq (records : Records) (index : Nat) (data : Bytes) :
    updateRow index data records = settled (records.update index data) records := by
  unfold updateRow Records.update
  simp only [bind_eq, get_eq]
  split
  · split
    · rfl
    · by_cases inside : index < records.count
      · rw [if_neg (Nat.not_le_of_lt inside), if_pos inside]
        rfl
      · rw [if_pos (Nat.le_of_not_lt inside), if_neg inside]
        rfl
  · rfl

theorem pushKey_eq (keys : Keys) (key : Key) :
    pushKey key keys = settled (keys.insert key) keys := by
  unfold pushKey Keys.insert
  simp only [bind_eq, get_eq]
  split <;> rfl

/-! ## Stores -/

def onRecords (steps : Steps Records Unit) : Steps Store Unit :=
  within Store.records (fun store records => { store with records }) steps

def countRecords : Steps Store Unit :=
  modify fun store =>
    { store with header := store.header.set .recordCount (UInt16.ofNat store.records.count) }

def insert (index : Nat) (data : Bytes) : Steps Store Unit := do
  onRecords (insertRow index data)
  countRecords

def update (index : Nat) (data : Bytes) : Steps Store Unit := do
  onRecords (updateRow index data)
  countRecords

def defineKey (number length : UInt16) (data : Bytes) : Steps Store Unit := do
  let key ← ofExcept (Key.ofBytes number length data)
  within Store.keys (fun store keys => { store with keys }) (pushKey key)

def apply : Store.Operation → Steps Store (Option Status)
  | .insert index data => do
    insert index data
    return none
  | .insertHere data => do
    insert (← get).position data
    return none
  | .update index data => do
    update index data
    return none
  | .updateHere data => do
    update (← get).position data
    return none
  | .stepFirst => do return some (← modifyGet Store.stepFirst)
  | .stepNext => do return some (← modifyGet Store.stepNext)
  | .findLeading sought => do return some (← modifyGet (·.findLeading sought))
  | .findEqual number sought => do return some (← modifyGet (·.findEqual number sought))
  | .defineKey number length data => do
    defineKey number length data
    return none

theorem counted_eq {steps : Steps Records Unit} {outcome : Except StoreError Records}
    {store : Store} (settles : steps store.records = settled outcome store.records) :
    (do onRecords steps; countRecords) store = settled (outcome.map store.withRecords) store := by
  rw [bind_eq, onRecords, within_eq_settled rfl settles]
  cases outcome <;> rfl

theorem insert_eq (store : Store) (index : Nat) (data : Bytes) :
    insert index data store = settled (store.insert index data) store :=
  counted_eq (insertRow_eq store.records index data)

theorem update_eq (store : Store) (index : Nat) (data : Bytes) :
    update index data store = settled (store.update index data) store :=
  counted_eq (updateRow_eq store.records index data)

theorem defineKey_eq (store : Store) (number length : UInt16) (data : Bytes) :
    defineKey number length data store = settled (store.defineKey number length data) store := by
  unfold defineKey Store.defineKey
  simp only [bind_eq, ofExcept_eq]
  cases Key.ofBytes number length data with
  | error error => rfl
  | ok key => exact within_eq_settled rfl (pushKey_eq store.keys key)

theorem done_eq {steps : Steps Store Unit} {outcome : Except StoreError Store} {store : Store}
    (settles : steps store = settled outcome store) :
    (do steps; return none : Steps Store (Option Status)) store = store.settle outcome := by
  simp only [bind_eq, settles]
  cases outcome <;> rfl

theorem apply_eq (operation : Store.Operation) (store : Store) :
    apply operation store = store.apply operation := by
  cases operation with
  | insert index data => exact done_eq (insert_eq store index data)
  | insertHere data => exact done_eq (insert_eq store store.position data)
  | update index data => exact done_eq (update_eq store index data)
  | updateHere data => exact done_eq (update_eq store store.position data)
  | defineKey number length data => exact done_eq (defineKey_eq store number length data)
  | _ => rfl

end InPlace

end RecordFile
