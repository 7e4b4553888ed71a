import RecordFile.Image.Spec
import RecordFile.Proofs.HeaderForms
import RecordFile.Proofs.Store.Export
import RecordFile.Proofs.Store.Loading

/-! # Described images

A store opens a described image as far as the description is sound, and what a new store writes is
the image described by its records.
-/

namespace RecordFile

/-! ## The parts of a described image -/

theorem Header.length_startingImage_bare (fields : HeaderFields) {size : Nat}
    (large : minHeaderSize ≤ size) : ((bare fields).startingImage size).length = size := by
  have zeros : minHeaderSize ≤ (List.replicate size (0 : UInt8)).length := by simpa using large
  have written : (bare fields).startingImage size = (HeaderImage.write ⟨_, zeros⟩ fields).bytes :=
    rfl
  rw [written, HeaderImage.write_eq_foldl, (HeaderImage.sameOutside_foldl_set _ _).length_eq,
    List.length_replicate]

namespace ImageSpec

variable {spec : ImageSpec}

def storedFields (spec : ImageSpec) : HeaderFields := spec.fields.set .recordCount spec.count

theorem build_eq (spec : ImageSpec) :
    spec.build = (Header.bare spec.storedFields).startingImage spec.dataOffset ++ spec.body := rfl

theorem length_build (high : minHeaderSize ≤ spec.dataOffset) :
    spec.build.length = spec.dataOffset + spec.body.length := by
  rw [build_eq, List.length_append, Header.length_startingImage_bare _ high]

theorem size_eq (spec : ImageSpec) : spec.size = spec.dataOffset + spec.body.length := by
  rw [size, body, List.length_append, List.length_replicate, Nat.add_assoc]

theorem drop_build (high : minHeaderSize ≤ spec.dataOffset) :
    spec.build.drop spec.dataOffset = spec.body := by
  rw [build_eq, List.drop_left' (Header.length_startingImage_bare _ high)]

theorem room_build (high : minHeaderSize ≤ spec.dataOffset) :
    minHeaderSize ≤ spec.build.length := by
  rw [length_build high]
  omega

theorem get_build (high : minHeaderSize ≤ spec.dataOffset) (field : HeaderField) :
    HeaderImage.get ⟨spec.build, room_build high⟩ field = spec.storedFields.get field := by
  have start := Header.get_startingImage (.bare spec.storedFields) high field
  refine Eq.trans ?_ start
  apply HeaderImage.get_congr
  intro k low
  -- The body begins behind the header.
  have inStart : k < ((Header.bare spec.storedFields).startingImage spec.dataOffset).length := by
    rw [Header.length_startingImage_bare _ high]
    omega
  exact List.getElem?_append_left inStart

theorem statedCount_build (high : minHeaderSize ≤ spec.dataOffset) :
    Store.statedCount spec.build = spec.count.toNat := by
  have count := get_build high .recordCount
  rw [storedFields, HeaderFields.get_set_self] at count
  rw [← count]
  exact (Store.toNat_get_recordCount ⟨spec.build, room_build high⟩).symm

/-- The description's own count, or else the number of records. -/
def toldCount (spec : ImageSpec) : Nat := (spec.recordCount?.map (·.toNat)).getD spec.records.length

theorem toNat_count (buildable : spec.IsBuildable) : spec.count.toNat = spec.toldCount := by
  unfold count toldCount
  cases told : spec.recordCount? with
  | some value => rfl
  | none =>
    have few : spec.records.length < 65536 := Nat.lt_succ_of_le (buildable.2 told)
    simp [Nat.mod_eq_of_lt few]

end ImageSpec

/-! ## Opening a described image -/

namespace Store

variable {spec : ImageSpec} {name : String} {recordLength : UInt16} {settings : Settings}
  {store : Store}

theorem exists_ofImage_build_iff (high : minHeaderSize ≤ spec.dataOffset)
    (small : spec.build.length < addressLimit) (same : settings.dataOffset = spec.dataOffset) :
    (∃ store, ofImage name spec.build recordLength settings = .ok store) ↔
      spec.count.toNat = 0 ∨ spec.count.toNat * recordLength.toNat ≤ spec.body.length := by
  have length := ImageSpec.length_build high
  have room := ImageSpec.room_build high
  rw [exists_ofImage_iff (by omega) small, ImageSpec.statedCount_build high, same]
  constructor
  · rintro ⟨-, -, none | inside⟩
    · exact .inl none
    · exact .inr (by omega)
  · intro inside
    exact ⟨high, room, inside.imp_right (by omega)⟩

theorem rows_of_ofImage_build (high : minHeaderSize ≤ spec.dataOffset)
    (same : settings.dataOffset = spec.dataOffset)
    (opened : ofImage name spec.build recordLength settings = .ok store) :
    store.records.rows = Bytes.pieces recordLength.toNat spec.count.toNat spec.body := by
  obtain ⟨-, _, records, loaded, rfl⟩ := ofImage_eq_ok_iff.mp opened
  obtain ⟨-, -, -, rows⟩ := Records.load_eq_ok_iff.mp loaded
  rw [toNat_get_recordCount, ImageSpec.statedCount_build high, same, ImageSpec.drop_build high]
    at rows
  exact rows

theorem fields_of_ofImage_build (high : minHeaderSize ≤ spec.dataOffset)
    (opened : ofImage name spec.build recordLength settings = .ok store) :
    store.header.fields = spec.storedFields := by
  have began : openFrom name (some spec.build) recordLength settings = .ok store := opened
  obtain ⟨_, header⟩ := header_of_openFrom_some began
  apply HeaderFields.eq_of_get
  intro field
  rw [Header.get_fields, header]
  exact ImageSpec.get_build high field

theorem image?_of_ofImage_build (high : minHeaderSize ≤ spec.dataOffset)
    (small : spec.size ≤ maxBlockSize) (same : settings.dataOffset = spec.dataOffset)
    (opened : ofImage name spec.build recordLength settings = .ok store) :
    store.image? = some spec.build := by
  have length := ImageSpec.length_build high
  have size := spec.size_eq
  have began : openFrom name (some spec.build) recordLength settings = .ok store := opened
  have image : store.image = spec.build := by
    rw [image_of_openFrom began]
    exact Bytes.padTo_of_le (show settings.dataOffset ≤ spec.build.length by omega)
  have recordsEnd_le : store.recordsEnd ≤ maxBlockSize := by
    have inside := (recordsEnd_of_openFrom_some began).2
    omega
  rw [image?, if_pos recordsEnd_le, image]

theorem exists_rows_of_whole (buildable : spec.IsBuildable)
    (small : spec.build.length < addressLimit) (same : settings.dataOffset = spec.dataOffset)
    (plain : spec.recordCount? = none)
    (whole : ∀ row ∈ spec.records, row.length = recordLength.toNat) :
    ∃ store, ofImage name spec.build recordLength settings = .ok store ∧
      store.records.rows = spec.records := by
  have count : spec.count.toNat = spec.records.length := by
    rw [ImageSpec.toNat_count buildable, ImageSpec.toldCount, plain]
    rfl
  have inside : spec.count.toNat * recordLength.toNat ≤ spec.body.length := by
    rw [ImageSpec.body, List.length_append, Bytes.length_flatten_of_uniform whole, count,
      Nat.mul_comm]
    exact Nat.le_add_right _ _
  obtain ⟨store, opened⟩ := (exists_ofImage_build_iff buildable.1 small same).mpr (.inr inside)
  refine ⟨store, opened, ?_⟩
  rw [rows_of_ofImage_build buildable.1 same opened, count, ImageSpec.body]
  exact Bytes.pieces_flatten_append _ whole

/-- A described image opens exactly when its body has room for the records it tells of. -/
theorem ofImage_build (spec : ImageSpec) (name : String) (recordLength : UInt16)
    (settings : Settings) (buildable : spec.IsBuildable) (small : spec.size ≤ maxBlockSize)
    (same : settings.dataOffset = spec.dataOffset) :
    let count := (spec.recordCount?.map (·.toNat)).getD spec.records.length
    let body : Bytes := spec.records.flatten ++ List.replicate spec.trailing 0
    let length := recordLength.toNat
    let outcome := ofImage name spec.build recordLength settings
    spec.build? = some spec.build ∧
    ((∃ store, outcome = .ok store) ↔ count = 0 ∨ count * length ≤ body.length) ∧
    (∀ store, outcome = .ok store →
      store.records.rows.length = count ∧
      (∀ i < count, store.records.rows[i]? = body.slice? (i * length) length) ∧
      store.header.fields = spec.fields.set .recordCount (UInt16.ofNat count) ∧
      store.image? = some spec.build) ∧
    (spec.recordCount? = none → (∀ row ∈ spec.records, row.length = length) →
      ∃ store, outcome = .ok store ∧ store.records.rows = spec.records) := by
  intro count body length outcome
  have high := buildable.1
  have told : spec.count.toNat = count := ImageSpec.toNat_count buildable
  have addressed : spec.build.length < addressLimit := by
    rw [ImageSpec.length_build high, ← ImageSpec.size_eq]
    exact Nat.lt_of_le_of_lt small (by decide)
  have accepted : (∃ store, outcome = .ok store) ↔ count = 0 ∨ count * length ≤ body.length := by
    rw [← told]
    exact exists_ofImage_build_iff high addressed same
  refine ⟨if_pos ⟨buildable, small⟩, accepted, ?_, ?_⟩
  · intro store opened
    have rows := rows_of_ofImage_build high same opened
    rw [told] at rows
    refine ⟨?_, ?_, ?_, image?_of_ofImage_build high small same opened⟩
    · rw [rows, Bytes.length_pieces]
    · intro i counted
      have room : length * count ≤ body.length := by
        rw [Nat.mul_comm]
        exact (accepted.mp ⟨store, opened⟩).resolve_left (by omega)
      rw [rows]
      exact Bytes.getElem?_pieces room counted
    · rw [fields_of_ofImage_build high opened, ImageSpec.storedFields, ← told, UInt16.ofNat_toNat]
  · exact exists_rows_of_whole buildable addressed same

def raggedSpec : ImageSpec where
  fields := { pageLength := 7, recordLength := 9 }
  recordCount? := some 2
  records := [[65], [66, 67]]
  dataOffset := 0x20
  trailing := 1

theorem ofImage_build_sample :
    let settings : Settings := { dataOffset := 0x20 }
    raggedSpec.IsBuildable ∧ raggedSpec.size ≤ maxBlockSize ∧
      (∃ store, ofImage "RAGGED" raggedSpec.build 2 settings = .ok store ∧
        store.records.rows[1]? = some [67, 0] ∧ store.header.get .recordLength = 9 ∧
        store.image? = some raggedSpec.build) ∧
      ¬∃ store, ofImage "RAGGED" raggedSpec.build 3 settings = .ok store := by
  intro settings
  have buildable : raggedSpec.IsBuildable := by decide
  have small : raggedSpec.size ≤ maxBlockSize := by decide
  have two := ofImage_build raggedSpec "RAGGED" 2 settings buildable small rfl
  have three := ofImage_build raggedSpec "RAGGED" 3 settings buildable small rfl
  refine ⟨buildable, small, ?_, ?_⟩
  · obtain ⟨store, opened⟩ := two.2.1.mpr (.inr (by decide))
    obtain ⟨-, rows, fields, image⟩ := two.2.2.1 store opened
    refine ⟨store, opened, rows 1 (by decide), ?_, image⟩
    rw [← Header.get_fields, fields]
    rfl
  · intro opens
    exact absurd (three.2.1.mp opens) (by decide)

/-! ## The image of a new store -/

def newSpec (recordLength : UInt16) (dataOffset : Nat) (rows : List Bytes) : ImageSpec :=
  ({ (ImageSpec.new recordLength).withField .pageLength 0 with dataOffset }).withRecords rows

theorem body_newSpec (recordLength : UInt16) (dataOffset : Nat) (rows : List Bytes) :
    (newSpec recordLength dataOffset rows).body = rows.flatten := List.append_nil _

theorem header_run_new (opened : new name recordLength settings = .ok store)
    (operations : List Operation) :
    let rows := (store.run operations).records.rows
    (store.run operations).header =
      .bare (newSpec recordLength settings.dataOffset rows).storedFields := by
  intro rows
  have began : openFrom name none recordLength settings = .ok store := opened
  rw [(follows_run began operations).header_eq, header_of_openFrom_none began]
  rfl

theorem recordsEnd_run_new (opened : new name recordLength settings = .ok store)
    (operations : List Operation) :
    (store.run operations).recordsEnd =
      settings.dataOffset + (store.run operations).records.flatten.length := by
  have began : openFrom name none recordLength settings = .ok store := opened
  have follows := follows_run began operations
  rw [recordsEnd, Records.length_flatten, follows.rowLength_eq, follows.recordLength_eq,
    follows.dataOffset_eq, (settled_of_openFrom began).2.2.2.1]

theorem image_eq_build (opened : new name recordLength settings = .ok store)
    (operations : List Operation) :
    let rows := (store.run operations).records.rows
    (store.run operations).image = (newSpec recordLength settings.dataOffset rows).build := by
  intro rows
  have began : openFrom name none recordLength settings = .ok store := opened
  have high := (settled_of_openFrom began).1
  have start := Header.length_startingImage_bare
    (newSpec recordLength settings.dataOffset rows).storedFields high
  have offset : (store.run operations).dataOffset = settings.dataOffset :=
    (follows_run began operations).dataOffset_eq.trans (settled_of_openFrom began).2.2.2.1
  unfold image
  rw [recordsEnd_run_new opened, header_run_new opened, offset]
  -- The records are written where the header ends.
  have behind := Bytes.overlay_padTo ((Header.bare (newSpec recordLength settings.dataOffset
    rows).storedFields).startingImage settings.dataOffset) (store.run operations).records.flatten
  rw [start] at behind
  rw [ImageSpec.build_eq, body_newSpec]
  exact behind

/-- Whatever is asked of a new store, its image is described by its records alone. -/
theorem image_run_new (name : String) (recordLength : UInt16) (settings : Settings)
    (high : minHeaderSize ≤ settings.dataOffset) :
    ∃ store, new name recordLength settings = .ok store ∧ ∀ operations,
      let last := store.run operations
      let spec := newSpec recordLength settings.dataOffset last.records.rows
      last.records.rows.length ≤ 65535 ∧ spec.IsBuildable ∧ last.image = spec.build ∧
        last.image? = spec.build? := by
  refine ⟨_, new_eq_ok_iff.mpr ⟨high, rfl⟩, ?_⟩
  intro operations last spec
  have opened : new name recordLength settings = .ok _ := new_eq_ok_iff.mpr ⟨high, rfl⟩
  have began : openFrom name none recordLength settings = .ok _ := opened
  have few : last.records.rows.length ≤ 65535 := (follows_run began operations).count_le
  have buildable : spec.IsBuildable := ⟨high, fun _ => few⟩
  have image : last.image = spec.build := image_eq_build opened operations
  have size : last.recordsEnd = spec.size := recordsEnd_run_new opened operations
  refine ⟨few, buildable, image, ?_⟩
  rw [image?, ImageSpec.build?, size, image]
  simp [buildable]

theorem image_run_new_sample :
    let operations :=
      [.updateHere [65, 66], .insert 0 [67, 68], .insert 9 [0, 0], .update 1 [69, 70]]
    let spec := newSpec 2 0x1E [[67, 68], [69, 70]]
    minHeaderSize ≤ sampleSettings.dataOffset ∧
      ∃ store, new "NEW" 2 sampleSettings = .ok store ∧
        (store.run operations).records.rows = [[67, 68], [69, 70]] ∧
        (store.run operations).image? = spec.build? ∧ (spec.build?).isSome := by
  intro operations spec
  have high : minHeaderSize ≤ sampleSettings.dataOffset := by decide
  obtain ⟨store, opened, images⟩ := image_run_new "NEW" 2 sampleSettings high
  obtain ⟨-, rfl⟩ := new_eq_ok_iff.mp opened
  exact ⟨high, _, opened, rfl, (images operations).2.2.2, by decide⟩

end Store

end RecordFile
