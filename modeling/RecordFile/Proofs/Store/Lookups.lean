import RecordFile.Proofs.Addresses
import RecordFile.Proofs.Store.Runs

/-! # Where lookups lead

Through a key, a row answers when the bytes sought fit into the key field and stand where the field
begins; without a key, when it begins with them.
-/

namespace RecordFile

/-! ## First rows -/

/-- The least index of a row that is wanted. -/
structure IsFirst (wanted : Bytes → Prop) (rows : List Bytes) (index : Nat) : Prop where
  wanted_at : ∃ row, rows[index]? = some row ∧ wanted row
  not_before : ∀ i row, i < index → rows[i]? = some row → ¬wanted row

theorem IsFirst.congr {wanted other : Bytes → Prop} {rows : List Bytes} {index : Nat}
    (h : IsFirst wanted rows index) (same : ∀ row ∈ rows, other row ↔ wanted row) :
    IsFirst other rows index := by
  obtain ⟨row, here, isWanted⟩ := h.wanted_at
  refine ⟨⟨row, here, (same row (List.mem_of_getElem? here)).mpr isWanted⟩, ?_⟩
  intro i row less at_i isOther
  exact h.not_before i row less at_i ((same row (List.mem_of_getElem? at_i)).mp isOther)

theorem findIdx?_eq_some_iff_isFirst {test : Bytes → Bool} {wanted : Bytes → Prop}
    (tests : ∀ row, test row = true ↔ wanted row) {rows : List Bytes} {index : Nat} :
    rows.findIdx? test = some index ↔ IsFirst wanted rows index := by
  rw [List.findIdx?_eq_some_iff_getElem]
  constructor
  · rintro ⟨inside, here, before⟩
    refine ⟨⟨rows[index], List.getElem?_eq_getElem inside, (tests _).mp here⟩, ?_⟩
    intro i row less at_i answers
    obtain ⟨_, rfl⟩ := List.getElem?_eq_some_iff.mp at_i
    exact before i less ((tests _).mpr answers)
  · rintro ⟨⟨row, here, answers⟩, before⟩
    obtain ⟨inside, rfl⟩ := List.getElem?_eq_some_iff.mp here
    refine ⟨inside, (tests _).mpr answers, ?_⟩
    intro i less answers
    exact before i _ less (List.getElem?_eq_getElem (by omega)) ((tests _).mp answers)

theorem findIdx?_eq_none_iff_not_wanted {test : Bytes → Bool} {wanted : Bytes → Prop}
    (tests : ∀ row, test row = true ↔ wanted row) {rows : List Bytes} :
    rows.findIdx? test = none ↔ ∀ row ∈ rows, ¬wanted row := by
  simp [List.findIdx?_eq_none_iff, ← tests]

/-! ## Rows that answer -/

namespace Key

variable {key : Key} {row sought : Bytes}

theorem fieldBegins_iff : key.fieldBegins row sought = true ↔
    sought.length ≤ key.length.toNat ∧ key.fieldStart ≤ row.length ∧
      sought <+: row.drop key.fieldStart := by
  unfold fieldBegins Bytes.slice?
  rw [Bool.and_eq_true, decide_eq_true_iff, beq_iff_eq, List.prefix_iff_eq_take]
  refine and_congr_right fun _ => ?_
  constructor
  · intro cut
    split at cut
    · next inside => exact ⟨by omega, (Option.some.inj cut).symm⟩
    · cases cut
  · rintro ⟨start, begins⟩
    have inside : key.fieldStart + sought.length ≤ row.length := by
      have := congrArg List.length begins
      rw [List.length_take, List.length_drop] at this
      omega
    rw [if_pos inside, ← begins]

/-- The end of the field stops at the last address. None is what must not be. -/
def fieldBeginsInSteps? (key : Key) (row sought : Bytes) : Option Bool :=
  let fieldEnd := min key.fieldEnd (addressLimit - 1)
  if fieldEnd - key.fieldStart < sought.length then some false
  else
    (Address.sum? key.fieldStart sought.length).map fun stop =>
      decide (stop ≤ row.length) && (row.drop key.fieldStart).take (stop - key.fieldStart) == sought

theorem fieldEnd_lt (key : Key) : key.fieldEnd < addressLimit - 1 := by
  have start := key.offset.toNat_lt
  have length := key.length.toNat_lt
  unfold fieldEnd fieldStart addressLimit
  omega

theorem fieldBeginsInSteps?_eq (key : Key) (row sought : Bytes) :
    key.fieldBeginsInSteps? row sought = some (key.fieldBegins row sought) := by
  have reachable := key.fieldEnd_lt
  have length : key.fieldEnd - key.fieldStart = key.length.toNat := Nat.add_sub_cancel_left _ _
  unfold fieldBeginsInSteps? fieldBegins Bytes.slice? Address.sum?
  dsimp only
  rw [Nat.min_eq_left (Nat.le_of_lt reachable), length]
  by_cases long : key.length.toNat < sought.length
  · rw [if_pos long, decide_eq_false (Nat.not_le_of_lt long), Bool.false_and]
  · have stop : key.fieldStart + sought.length < addressLimit := by
      unfold fieldEnd at reachable
      omega
    rw [if_neg long, if_pos stop, decide_eq_true (Nat.le_of_not_lt long), Bool.true_and,
      Option.map_some, Nat.add_sub_cancel_left]
    split
    · next inside => simp [inside]
    · next outside => simp [outside]

end Key

/-! ## Lookups in a store -/

namespace Store

variable {store : Store} {number : UInt16} {key : Key} {row sought more : Bytes} {index : Nat}

/-- A row that a lookup by this key number is for. -/
def Answers (store : Store) (number : UInt16) (sought row : Bytes) : Prop :=
  match store.keys.get? number with
  | some key =>
    sought.length ≤ key.length.toNat ∧ key.fieldStart ≤ row.length ∧
      sought <+: row.drop key.fieldStart
  | none => sought <+: row

theorem answers_of_key (defined : store.keys.get? number = some key) :
    store.Answers number sought row ↔ sought.length ≤ key.length.toNat ∧
      key.fieldStart ≤ row.length ∧ sought <+: row.drop key.fieldStart := by
  rw [Answers, defined]

theorem answers_without_key (undefined : store.keys.get? number = none) :
    store.Answers number sought row ↔ sought <+: row := by
  rw [Answers, undefined]

theorem Answers.of_append (h : store.Answers number (sought ++ more) row) :
    store.Answers number sought row := by
  cases defined : store.keys.get? number with
  | none =>
    rw [answers_without_key defined] at *
    exact (List.prefix_append sought more).trans h
  | some key =>
    rw [answers_of_key defined, List.length_append] at h
    rw [answers_of_key defined]
    obtain ⟨fits, start, begins⟩ := h
    exact ⟨by omega, start, (List.prefix_append sought more).trans begins⟩

theorem lookup?_eq (store : Store) (number : UInt16) (sought : Bytes) :
    ∃ test : Bytes → Bool, (∀ row, test row = true ↔ store.Answers number sought row) ∧
      store.lookup? number sought = store.records.rows.findIdx? test := by
  unfold lookup?
  cases defined : store.keys.get? number with
  | none =>
    refine ⟨(sought.isPrefixOf ·), fun row => ?_, rfl⟩
    rw [answers_without_key defined, List.isPrefixOf_iff_prefix]
  | some key =>
    refine ⟨(key.fieldBegins · sought), fun row => ?_, rfl⟩
    rw [answers_of_key defined, Key.fieldBegins_iff]

theorem lookup?_eq_some_iff : store.lookup? number sought = some index ↔
    IsFirst (store.Answers number sought) store.records.rows index := by
  obtain ⟨test, tests, leads⟩ := store.lookup?_eq number sought
  rw [leads, findIdx?_eq_some_iff_isFirst tests]

theorem lookup?_eq_none_iff : store.lookup? number sought = none ↔
    ∀ row ∈ store.records.rows, ¬store.Answers number sought row := by
  obtain ⟨test, tests, leads⟩ := store.lookup?_eq number sought
  rw [leads, findIdx?_eq_none_iff_not_wanted tests]

theorem findEqual_of_isFirst
    (first : IsFirst (store.Answers number sought) store.records.rows index) :
    store.findEqual number sought = (.found, { store with cursor := ⟨index⟩ }) := by
  rw [findEqual, lookup?_eq_some_iff.mpr first]
  rfl

theorem findEqual_of_not_answers
    (none : ∀ row ∈ store.records.rows, ¬store.Answers number sought row) :
    store.findEqual number sought = (.notFound, store) := by
  rw [findEqual, lookup?_eq_none_iff.mpr none]
  rfl

theorem answers_iff_of_inside (defined : store.keys.get? number = some key)
    (fits : sought.length ≤ key.length.toNat) (inside : key.fieldStart ≤ row.length) :
    store.Answers number sought row ↔ sought <+: row.drop key.fieldStart := by
  rw [answers_of_key defined]
  exact ⟨fun h => h.2.2, fun begins => ⟨fits, inside, begins⟩⟩

theorem findEqual_of_outside (defined : store.keys.get? number = some key)
    (outside : key.length.toNat < sought.length ∨
      ∀ row ∈ store.records.rows, row.length < key.fieldStart) :
    store.findEqual number sought = (.notFound, store) := by
  apply findEqual_of_not_answers
  intro row mem answers
  obtain ⟨fits, inside, -⟩ := (answers_of_key defined).mp answers
  rcases outside with long | behind
  · exact absurd fits (Nat.not_le_of_lt long)
  · exact absurd inside (Nat.not_le_of_lt (behind row mem))

theorem findEqual_of_missed (missed : (store.findEqual number sought).1 = .notFound) :
    store.findEqual number sought = (.notFound, store) := by
  rw [findEqual] at *
  cases leads : store.lookup? number sought with
  | none => rfl
  | some index =>
    rw [leads] at missed
    cases missed

theorem findEqual_without_key (undefined : store.keys.get? number = none) (sought : Bytes) :
    store.findEqual number sought = store.findLeading sought := by
  rw [findEqual, lookup?, undefined]
  rfl

theorem findEqual_of_start_zero (defined : store.keys.get? number = some key)
    (start : key.fieldStart = 0) (fits : sought.length ≤ key.length.toNat) :
    store.findEqual number sought = store.findLeading sought := by
  have alike : (key.fieldBegins · sought) = (sought.isPrefixOf ·) := by
    funext row
    rw [Bool.eq_iff_iff, Key.fieldBegins_iff, List.isPrefixOf_iff_prefix, start, List.drop_zero]
    exact ⟨fun h => h.2.2, fun begins => ⟨fits, Nat.zero_le _, begins⟩⟩
  unfold findEqual findLeading lookup? Records.findKeyed? Records.findLeading?
  rw [defined]
  dsimp only
  rw [alike]

theorem lookup?_of_findEqual
    (found : store.findEqual number sought = (.found, { store with cursor := ⟨index⟩ })) :
    store.lookup? number sought = some index := by
  rw [findEqual] at found
  cases leads : store.lookup? number sought with
  | none =>
    rw [leads] at found
    cases found
  | some other =>
    rw [leads] at found
    have moved := congrArg (·.2.position) found
    exact congrArg some moved

theorem lookup?_of_append (found : store.lookup? number (sought ++ more) = some index) :
    ∃ first ≤ index, store.lookup? number sought = some first := by
  obtain ⟨⟨row, here, answers⟩, -⟩ := lookup?_eq_some_iff.mp found
  cases shorter : store.lookup? number sought with
  | none =>
    exact absurd answers.of_append
      (lookup?_eq_none_iff.mp shorter row (List.mem_of_getElem? here))
  | some first =>
    rcases Nat.lt_or_ge index first with later | early
    · exact absurd answers.of_append
        ((lookup?_eq_some_iff.mp shorter).not_before index row later here)
    · exact ⟨first, early, rfl⟩

theorem exists_findEqual_of_append (found : store.findEqual number (sought ++ more) =
      (.found, { store with cursor := ⟨index⟩ })) :
    ∃ earlier ≤ index,
      store.findEqual number sought = (.found, { store with cursor := ⟨earlier⟩ }) := by
  obtain ⟨earlier, early, leads⟩ := lookup?_of_append (lookup?_of_findEqual found)
  refine ⟨earlier, early, ?_⟩
  rw [findEqual, leads]
  rfl

/-! ## Stores in use -/

variable {name : String} {image? : Option Bytes} {recordLength : UInt16} {settings : Settings}
  {first : Store}

/-- A lookup leads to the first row that has the bytes sought in its key field. -/
theorem findEqual_run (opened : openFrom name image? recordLength settings = .ok first)
    (operations : List Operation) :
    let store := first.run operations
    (∀ number key sought, store.keys.get? number = some key →
      let start := key.offset.toNat
      let begins := fun row : Bytes => sought <+: row.drop start
      (sought.length ≤ key.length.toNat ∧ start ≤ recordLength.toNat →
        (∀ index, IsFirst begins store.records.rows index →
          store.findEqual number sought = (.found, { store with cursor := ⟨index⟩ })) ∧
        ((∀ row ∈ store.records.rows, ¬begins row) →
          store.findEqual number sought = (.notFound, store))) ∧
      (key.length.toNat < sought.length ∨ recordLength.toNat < start →
        store.findEqual number sought = (.notFound, store)) ∧
      (∀ row, key.fieldBeginsInSteps? row sought = some (key.fieldBegins row sought)) ∧
      (start = 0 → sought.length ≤ key.length.toNat →
        store.findEqual number sought = store.findLeading sought)) ∧
    (∀ number sought, store.keys.get? number = none →
      store.findEqual number sought = store.findLeading sought) ∧
    (∀ number sought, (store.findEqual number sought).1 = .notFound →
      store.findEqual number sought = (.notFound, store)) ∧
    (∀ number sought more index,
      store.findEqual number (sought ++ more) = (.found, { store with cursor := ⟨index⟩ }) →
      ∃ earlier ≤ index,
        store.findEqual number sought = (.found, { store with cursor := ⟨earlier⟩ })) := by
  intro store
  have length : ∀ row ∈ store.records.rows, row.length = recordLength.toNat := by
    intro row mem
    rw [(follows_run opened operations).length_of_mem mem, (settled_of_openFrom opened).2.2.1]
  refine ⟨?_, fun _ sought undefined => findEqual_without_key undefined sought,
    fun _ _ => findEqual_of_missed, fun _ _ _ _ => exists_findEqual_of_append⟩
  intro number key sought defined start begins
  refine ⟨?_, ?_, fun row => key.fieldBeginsInSteps?_eq row sought,
    findEqual_of_start_zero defined⟩
  · -- All rows reach past the start of the field, so only the bytes themselves are compared.
    rintro ⟨fits, inside⟩
    have answers : ∀ row ∈ store.records.rows, store.Answers number sought row ↔ begins row := by
      intro row mem
      exact answers_iff_of_inside defined fits ((length row mem).symm ▸ inside)
    refine ⟨?_, ?_⟩
    · intro index first
      exact findEqual_of_isFirst (first.congr answers)
    · intro none
      exact findEqual_of_not_answers fun row mem h => none row mem ((answers row mem).mp h)
  · intro outside
    apply findEqual_of_outside defined
    refine outside.imp_right fun behind row mem => ?_
    rw [length row mem]
    exact behind

/-- Key 3 has its field partly behind the records, key 4 all of it. -/
theorem findEqual_run_sample :
    let operations := [.insert 1 [67, 68], .defineKey 3 2 [0, 0, 0, 0, 68, 0, 0, 0, 1, 0],
      .defineKey 4 1 [0, 0, 0, 0, 9, 0, 0, 3, 0], .stepNext]
    let store := sample.run operations
    openFrom "SAMPLE" (some sampleImage) 2 sampleSettings = .ok sample ∧ store.position = 1 ∧
      store.findEqual 3 [66] = (.found, { store with cursor := ⟨0⟩ }) ∧
      store.findEqual 3 [66, 67] = (.notFound, store) ∧ store.findEqual 4 [] = (.notFound, store) ∧
      store.findEqual 9 [67] = store.findLeading [67] := by
  intro operations store
  obtain ⟨keyed, keyless, -, -⟩ := findEqual_run openFrom_sample operations
  let third : Key := ⟨3, 2, [0, 0, 0, 0, 68, 0, 0, 0, 1, 0], by decide⟩
  let fourth : Key := ⟨4, 1, [0, 0, 0, 0, 9, 0, 0, 3, 0], by decide⟩
  have found := (keyed 3 third [66] rfl).1 (by decide)
  have missed := (keyed 3 third [66, 67] rfl).1 (by decide)
  have behind := (keyed 4 fourth [] rfl).2.1 (by decide)
  refine ⟨openFrom_sample, rfl, found.1 0 ⟨⟨[65, 66], rfl, by decide⟩, ?_⟩, missed.2 (by decide),
    behind, keyless 9 [67] rfl⟩
  intro i row less
  cases less

end Store

end RecordFile
