import Mathlib.Data.List.Nodup
import RecordFile.Proofs.Store.Descriptors

/-! # The keys of a store and their history

A store has the keys whose definitions succeeded, in that order. A number is defined once, and what
it stands for is never changed.
-/

namespace RecordFile

/-! ## Key sets -/

namespace Keys

variable {keys changed : Keys} {key : Key} {number : UInt16}

theorem insert_eq_ok_iff : keys.insert key = .ok changed ↔
    keys.get? key.number = none ∧ changed.toList = keys.toList ++ [key] := by
  unfold insert
  constructor
  · intro done
    split at done
    · next new =>
      cases done
      exact ⟨new, rfl⟩
    · cases done
  · rintro ⟨new, appended⟩
    cases changed
    subst appended
    exact dif_pos new

theorem exists_insert (new : keys.get? key.number = none) :
    ∃ changed, keys.insert key = .ok changed :=
  ⟨_, dif_pos new⟩

theorem insert_taken (taken : keys.get? key.number ≠ none) :
    keys.insert key = .error (.duplicateKey key.number.toNat) :=
  dif_neg taken

end Keys

/-! ## Definitions -/

structure Definition where
  number : UInt16
  length : UInt16
  data : Bytes
  deriving DecidableEq, Repr

def Key.definition (key : Key) : Definition := ⟨key.number, key.length, key.data⟩

def Keys.definitions (keys : Keys) : List Definition := keys.toList.map Key.definition

namespace Keys

variable {keys : Keys} {number : UInt16}

theorem map_number_definitions (keys : Keys) :
    keys.definitions.map (·.number) = keys.toList.map (·.number) :=
  List.map_map

theorem nodup_definitions (keys : Keys) : (keys.definitions.map (·.number)).Nodup := by
  rw [map_number_definitions]
  exact keys.distinct

theorem get?_eq_none_iff_definitions :
    keys.get? number = none ↔ number ∉ keys.definitions.map (·.number) := by
  rw [get?_eq_none_iff, map_number_definitions]

/-- The first key with a number is the only one. -/
theorem exists_get?_of_mem {definition : Definition} (mem : definition ∈ keys.definitions) :
    ∃ key, keys.get? definition.number = some key ∧ key.definition = definition := by
  obtain ⟨key, here, rfl⟩ := List.mem_map.mp mem
  have found : (keys.get? key.definition.number).isSome := by
    rw [get?, List.find?_isSome]
    exact ⟨key, here, beq_self_eq_true _⟩
  obtain ⟨other, first⟩ := Option.isSome_iff_exists.mp found
  have number := List.find?_some first
  rw [beq_iff_eq] at number
  have same := List.inj_on_of_nodup_map keys.distinct (List.mem_of_find?_eq_some first) here number
  exact ⟨other, first, congrArg Key.definition same⟩

end Keys

namespace Store

structure Report where
  operation : Operation
  result : Except StoreError (Option Status)

def Report.definition? : Report → Option Definition
  | ⟨.defineKey number length data, .ok _⟩ => some ⟨number, length, data⟩
  | _ => none

def reports (store : Store) : List Operation → List Report
  | [] => []
  | operation :: rest =>
    ⟨operation, (store.apply operation).1⟩ :: (store.apply operation).2.reports rest

/-- The definitions that succeeded along a run, in order. -/
def definitions (past : List Report) : List Definition := past.filterMap Report.definition?

theorem definitions_cons (report : Report) (past : List Report) :
    definitions (report :: past) = report.definition?.toList ++ definitions past := by
  rw [definitions, List.filterMap_cons]
  cases report.definition? <;> rfl

variable {store changed first : Store} {number length : UInt16} {data sought : Bytes} {key : Key}
  {operation : Operation}

/-! ## One operation -/

theorem exists_keys_of_defineKey (defined : store.defineKey number length data = .ok changed) :
    4 + length.toNat ≤ data.length ∧ store.keys.get? number = none ∧
      ∃ keys, changed = { store with keys } ∧
        keys.definitions = store.keys.definitions ++ [⟨number, length, data⟩] := by
  unfold defineKey at defined
  simp only [bind_eq_ok_iff] at defined
  obtain ⟨key, made, keys, inserted, ⟨⟩⟩ := defined
  obtain ⟨rfl, rfl, rfl⟩ := Key.ofBytes_eq_ok_iff.mp made
  obtain ⟨new, appended⟩ := Keys.insert_eq_ok_iff.mp inserted
  refine ⟨key.room, new, keys, rfl, ?_⟩
  rw [Keys.definitions, appended, List.map_append]
  rfl

theorem defineKey_short (short : data.length < 4 + length.toNat) :
    store.defineKey number length data =
      .error (.invalidKeyDescriptor number.toNat data.length (4 + length.toNat)) := by
  rw [defineKey, Key.ofBytes_short short]
  rfl

theorem defineKey_taken (room : 4 + length.toNat ≤ data.length)
    (taken : store.keys.get? number ≠ none) :
    store.defineKey number length data = .error (.duplicateKey number.toNat) := by
  obtain ⟨key, made⟩ := (Key.exists_ofBytes_iff number).mpr room
  obtain ⟨rfl, -, -⟩ := Key.ofBytes_eq_ok_iff.mp made
  rw [defineKey, made]
  simp only [bind, Except.bind, Keys.insert_taken taken]

theorem exists_defineKey (room : 4 + length.toNat ≤ data.length)
    (new : store.keys.get? number = none) :
    ∃ changed, store.defineKey number length data = .ok changed := by
  obtain ⟨key, made⟩ := (Key.exists_ofBytes_iff number).mpr room
  obtain ⟨rfl, -, -⟩ := Key.ofBytes_eq_ok_iff.mp made
  obtain ⟨keys, inserted⟩ := Keys.exists_insert new
  exact ⟨_, bind_eq_ok_iff.mpr ⟨key, made, bind_eq_ok_iff.mpr ⟨keys, inserted, rfl⟩⟩⟩

theorem keys_settle_withRecords {outcome : Except StoreError Records} :
    (store.settle (outcome.map store.withRecords)).2.keys = store.keys := by
  cases outcome <;> rfl

theorem definitions_apply (store : Store) (operation : Operation) :
    (store.apply operation).2.keys.definitions = store.keys.definitions ++
      (Report.mk operation (store.apply operation).1).definition?.toList := by
  cases operation with
  | defineKey number length data =>
    rw [apply]
    cases defined : store.defineKey number length data with
    | error error => exact (List.append_nil _).symm
    | ok changed =>
      obtain ⟨-, -, keys, rfl, appended⟩ := exists_keys_of_defineKey defined
      exact appended
  | insert | insertHere | update | updateHere =>
    simp [apply, insertHere, updateHere, insert, update, keys_settle_withRecords,
      Report.definition?]
  | stepFirst | stepNext => exact (List.append_nil _).symm
  | findLeading sought =>
    obtain ⟨cursor, moved⟩ := store.moveTo_eq (store.records.findLeading? sought)
    simp [apply, positioned, findLeading, moved, Report.definition?]
  | findEqual number sought =>
    obtain ⟨cursor, moved⟩ := store.moveTo_eq (store.lookup? number sought)
    simp [apply, positioned, findEqual, moved, Report.definition?]

/-! ## Runs -/

theorem definitions_run (store : Store) (operations : List Operation) :
    (store.run operations).keys.definitions =
      store.keys.definitions ++ definitions (store.reports operations) := by
  induction operations generalizing store with
  | nil => exact (List.append_nil _).symm
  | cons operation rest ih =>
    have later : (store.run (operation :: rest)).keys.definitions = _ := ih (store.apply operation).2
    rw [later, definitions_apply, reports, definitions_cons, List.append_assoc]

theorem mem_definitions_run {definition : Definition} (store : Store) (more : List Operation)
    (mem : definition ∈ store.keys.definitions) :
    definition ∈ (store.run more).keys.definitions := by
  rw [definitions_run]
  exact List.mem_append_left _ mem

/-! ## The next definition -/

theorem exists_keys_apply_defineKey (store : Store) (number length : UInt16) (data : Bytes) :
    ∃ keys, (store.apply (.defineKey number length data)).2 = { store with keys } := by
  rw [apply]
  cases defined : store.defineKey number length data with
  | error error => exact ⟨store.keys, rfl⟩
  | ok changed =>
    obtain ⟨-, -, keys, rfl, -⟩ := exists_keys_of_defineKey defined
    exact ⟨keys, rfl⟩

theorem apply_defineKey_eq_ok_iff :
    (store.apply (.defineKey number length data)).1 = .ok none ↔
      4 + length.toNat ≤ data.length ∧ store.keys.get? number = none := by
  rw [apply]
  constructor
  · intro succeeds
    cases defined : store.defineKey number length data with
    | error error =>
      rw [defined] at succeeds
      cases succeeds
    | ok changed =>
      obtain ⟨room, new, -⟩ := exists_keys_of_defineKey defined
      exact ⟨room, new⟩
  · rintro ⟨room, new⟩
    obtain ⟨changed, defined⟩ := exists_defineKey room new
    rw [defined]
    rfl

theorem findEqual_of_key (defined : store.keys.get? number = some key) (sought : Bytes) :
    store.findEqual number sought = store.moveTo (store.records.findKeyed? key sought) := by
  rw [findEqual, lookup?, defined]

/-! ## Stores in use -/

/-- A definition succeeds exactly if its sample key fits and its number is new. -/
theorem keys_run {name : String} {image? : Option Bytes} {recordLength : UInt16}
    {settings : Settings} (opened : openFrom name image? recordLength settings = .ok first)
    (operations : List Operation) :
    let made := definitions (first.reports operations)
    let last := first.run operations
    (∀ number length data,
      let defined := last.apply (.defineKey number length data)
      (defined.1 = .ok none ↔
        4 + length.toNat ≤ data.length ∧ number ∉ made.map (·.number)) ∧
      (data.length < 4 + length.toNat →
        defined.1 = .error (.invalidKeyDescriptor number.toNat data.length (4 + length.toNat))) ∧
      (4 + length.toNat ≤ data.length → number ∈ made.map (·.number) →
        defined.1 = .error (.duplicateKey number.toNat)) ∧
      ∃ keys, defined.2 = { last with keys }) ∧
    last.keys.definitions = made ∧
    (made.map (·.number)).Nodup ∧
    (∀ definition ∈ made, ∀ more,
      let later := last.run more
      ∃ key, later.keys.get? definition.number = some key ∧ key.definition = definition ∧
        ∀ sought, later.findEqual definition.number sought =
          later.moveTo (later.records.findKeyed? key sought)) ∧
    (∀ number, number ∉ made.map (·.number) → last.keys.get? number = none ∧
      ∀ sought, last.findEqual number sought = last.findLeading sought) ∧
    last.header.get .keyCount = first.header.get .keyCount := by
  intro made last
  -- A store is opened without keys, so all of them were defined along the run.
  have kept : last.keys.definitions = made := by
    have all := definitions_run first operations
    rw [(settled_of_openFrom opened).2.2.2.2.1] at all
    exact all
  have isNew : ∀ number, last.keys.get? number = none ↔ number ∉ made.map (·.number) := by
    intro number
    rw [Keys.get?_eq_none_iff_definitions, kept]
  refine ⟨?_, kept, kept ▸ last.keys.nodup_definitions, ?_, ?_, ?_⟩
  · intro number length data defined
    refine ⟨?_, ?_, ?_, last.exists_keys_apply_defineKey number length data⟩
    · rw [← isNew]
      exact apply_defineKey_eq_ok_iff
    · intro short
      exact congrArg (fun outcome => (last.settle outcome).1) (defineKey_short short)
    · intro room taken
      have old : last.keys.get? number ≠ none := fun new => (isNew number).mp new taken
      exact congrArg (fun outcome => (last.settle outcome).1) (defineKey_taken room old)
  · intro definition mem more later
    rw [← kept] at mem
    obtain ⟨key, here, same⟩ := Keys.exists_get?_of_mem (mem_definitions_run last more mem)
    exact ⟨key, here, same, findEqual_of_key here⟩
  · intro number new
    have undefined := (isNew number).mpr new
    exact ⟨undefined, findEqual_without_key undefined⟩
  · exact (follows_run opened operations).get_header (by decide)

/-- A short descriptor is told also under a number that is taken. -/
theorem keys_run_sample :
    let third : Definition := ⟨3, 2, [0, 0, 0, 0, 68, 0, 0, 0, 1, 0]⟩
    let first : Definition := ⟨1, 1, [0, 0, 0, 0, 9, 0, 0, 0, 0]⟩
    let operations := [.defineKey 3 2 third.data, .insert 1 [67, 68], .defineKey 3 0 [0, 0, 0, 0],
      .defineKey 5 9 [0], .defineKey 1 1 first.data, .stepNext]
    let last := sample.run operations
    openFrom "SAMPLE" (some sampleImage) 2 sampleSettings = .ok sample ∧
      definitions (sample.reports operations) = [third, first] ∧
      last.keys.definitions = [third, first] ∧ last.header.get .keyCount = 0 ∧
      (last.apply (.defineKey 4 0 [0, 0, 0, 0])).1 = .ok none ∧
      (last.apply (.defineKey 3 0 [0, 0, 0])).1 = .error (.invalidKeyDescriptor 3 3 4) ∧
      (last.apply (.defineKey 3 0 [0, 0, 0, 0])).1 = .error (.duplicateKey 3) ∧
      (∃ key, (last.run [.defineKey 4 0 [0, 0, 0, 0]]).keys.get? 3 = some key ∧
        key.definition = third) ∧
      last.findEqual 4 [65] = last.findLeading [65] := by
  intro third first operations last
  have made : definitions (sample.reports operations) = [third, first] := rfl
  obtain ⟨defines, kept, -, lookups, others, count⟩ := keys_run openFrom_sample operations
  rw [made] at defines kept lookups others
  have defined := (defines 4 0 [0, 0, 0, 0]).1
  have short := (defines 3 0 [0, 0, 0]).2.1
  have taken := (defines 3 0 [0, 0, 0, 0]).2.2.1
  obtain ⟨key, here, same, -⟩ := lookups third (by decide) [.defineKey 4 0 [0, 0, 0, 0]]
  exact ⟨openFrom_sample, made, kept, count.trans rfl, defined.mpr (by decide), short (by decide),
    taken (by decide) (by decide), ⟨key, here, same⟩, (others 4 (by decide)).2 [65]⟩

end Store

end RecordFile
