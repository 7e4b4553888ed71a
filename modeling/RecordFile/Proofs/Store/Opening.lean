import RecordFile.Proofs.Header
import RecordFile.Proofs.Outcome
import RecordFile.Proofs.Records
import RecordFile.Store.Operation

/-! # How a store begins

A store is opened on the image of a file, or new and without one.
-/

namespace RecordFile.Store

def openFrom (name : String) (image? : Option Bytes) (recordLength : UInt16)
    (settings : Settings) : Except StoreError Store :=
  match image? with
  | some image => ofImage name image recordLength settings
  | none => new name recordLength settings

variable {name : String} {image : Bytes} {image? : Option Bytes} {recordLength : UInt16}
  {settings : Settings} {store : Store}

theorem dataOffsetOf_eq_ok_iff {dataOffset : Nat} :
    dataOffsetOf settings = .ok dataOffset ↔
      minHeaderSize ≤ settings.dataOffset ∧ settings.dataOffset = dataOffset := by
  unfold dataOffsetOf
  split
  · next low =>
    constructor
    · intro h; cases h
    · rintro ⟨high, -⟩; omega
  · next high => simp only [Except.ok.injEq, Nat.le_of_not_lt high, true_and]

theorem headerOf_eq_ok_iff {headerImage : HeaderImage} :
    (HeaderImage.ofBytes image).mapError StoreError.format = .ok headerImage ↔
      ∃ room : minHeaderSize ≤ image.length, headerImage = ⟨image, room⟩ := by
  unfold HeaderImage.ofBytes
  split
  · next room =>
    constructor
    · intro h
      cases h
      exact ⟨room, rfl⟩
    · rintro ⟨_, rfl⟩
      rfl
  · next short =>
    constructor
    · intro h; cases h
    · rintro ⟨room, -⟩; exact absurd room short

theorem ofImage_eq_ok_iff :
    ofImage name image recordLength settings = .ok store ↔
      minHeaderSize ≤ settings.dataOffset ∧
      ∃ (room : minHeaderSize ≤ image.length) (records : Records),
        Records.load image settings.dataOffset recordLength.toNat
          (HeaderImage.get ⟨image, room⟩ .recordCount).toNat = .ok records ∧
        store = {
          name, recordLength, records
          dataOffset := settings.dataOffset
          header := .loaded ⟨image, room⟩
          keys := .empty
          cursor := {} } := by
  unfold ofImage
  simp only [bind_eq_ok_iff, dataOffsetOf_eq_ok_iff, headerOf_eq_ok_iff]
  constructor
  · rintro ⟨_, ⟨high, rfl⟩, _, ⟨room, rfl⟩, records, loaded, ⟨⟩⟩
    exact ⟨high, room, records, loaded, rfl⟩
  · rintro ⟨high, room, records, loaded, rfl⟩
    exact ⟨_, ⟨high, rfl⟩, _, ⟨room, rfl⟩, records, loaded, rfl⟩

theorem new_eq_ok_iff :
    new name recordLength settings = .ok store ↔
      minHeaderSize ≤ settings.dataOffset ∧
      store = {
        name, recordLength
        dataOffset := settings.dataOffset
        header := .new recordLength
        records := .empty recordLength.toNat
        keys := .empty
        cursor := {} } := by
  unfold new
  simp only [bind_eq_ok_iff, dataOffsetOf_eq_ok_iff]
  constructor
  · rintro ⟨_, ⟨high, rfl⟩, ⟨⟩⟩
    exact ⟨high, rfl⟩
  · rintro ⟨high, rfl⟩
    exact ⟨_, ⟨high, rfl⟩, rfl⟩

/-! ## Opened stores -/

theorem settled_of_openFrom (opened : openFrom name image? recordLength settings = .ok store) :
    minHeaderSize ≤ settings.dataOffset ∧ store.name = name ∧ store.recordLength = recordLength ∧
      store.dataOffset = settings.dataOffset ∧ store.keys = .empty ∧ store.cursor = {} := by
  cases image? with
  | none =>
    obtain ⟨high, rfl⟩ := new_eq_ok_iff.mp opened
    exact ⟨high, rfl, rfl, rfl, rfl, rfl⟩
  | some image =>
    obtain ⟨high, -, -, -, rfl⟩ := ofImage_eq_ok_iff.mp opened
    exact ⟨high, rfl, rfl, rfl, rfl, rfl⟩

theorem header_of_openFrom_some
    (opened : openFrom name (some image) recordLength settings = .ok store) :
    ∃ room : minHeaderSize ≤ image.length, store.header = .loaded ⟨image, room⟩ := by
  obtain ⟨-, room, -, -, rfl⟩ := ofImage_eq_ok_iff.mp opened
  exact ⟨room, rfl⟩

theorem header_of_openFrom_none (opened : openFrom name none recordLength settings = .ok store) :
    store.header = .new recordLength := by
  obtain ⟨-, rfl⟩ := new_eq_ok_iff.mp opened
  rfl

theorem rowLength_of_openFrom (opened : openFrom name image? recordLength settings = .ok store) :
    store.records.recordLength = recordLength.toNat := by
  cases image? with
  | none =>
    obtain ⟨-, rfl⟩ := new_eq_ok_iff.mp opened
    rfl
  | some image =>
    obtain ⟨-, _, records, loaded, rfl⟩ := ofImage_eq_ok_iff.mp opened
    exact (Records.load_eq_ok_iff.mp loaded).2.2.1

theorem recordsEnd_of_openFrom_some
    (opened : openFrom name (some image) recordLength settings = .ok store) :
    store.recordsEnd < addressLimit ∧
      store.recordsEnd ≤ max settings.dataOffset image.length := by
  obtain ⟨-, room, records, loaded, rfl⟩ := ofImage_eq_ok_iff.mp opened
  obtain ⟨reachable, long, -, rows⟩ := Records.load_eq_ok_iff.mp loaded
  unfold recordsEnd Records.count
  dsimp only
  rw [rows, Bytes.length_pieces]
  refine ⟨reachable, ?_⟩
  rcases Nat.eq_zero_or_pos (HeaderImage.get ⟨image, room⟩ .recordCount).toNat with none | some
  · rw [none]
    exact Nat.le_max_left _ _
  · exact Nat.le_trans (long some) (Nat.le_max_right _ _)

theorem count_of_openFrom (opened : openFrom name image? recordLength settings = .ok store) :
    (store.header.get .recordCount).toNat = store.records.count := by
  cases image? with
  | none =>
    obtain ⟨-, rfl⟩ := new_eq_ok_iff.mp opened
    rfl
  | some image =>
    obtain ⟨-, room, records, loaded, rfl⟩ := ofImage_eq_ok_iff.mp opened
    obtain ⟨-, -, -, rows⟩ := Records.load_eq_ok_iff.mp loaded
    unfold Records.count
    rw [rows, Bytes.length_pieces]
    rfl

theorem exists_openFrom_of_openNamed {files : FileSystem} {basePath : Option String}
    (opened : openNamed files name basePath recordLength settings = .ok store) :
    ∃ image?, openFrom name image? recordLength settings = .ok store := by
  unfold openNamed at opened
  split at opened
  · unfold ofSource at opened
    split at opened
    · next image _ => exact ⟨some image, opened⟩
    · cases opened
  · split at opened
    · exact ⟨none, opened⟩
    · cases opened
  · cases opened

/-! ## A small file -/

/-- One record "AB" at 0x1E and a byte behind it. The header says nine bytes. -/
def sampleImage : Bytes :=
  List.replicate 0x16 0 ++ [9, 0, 9, 0, 0, 0, 1, 0] ++ [65, 66] ++ [7]

def sampleSettings : Settings := { dataOffset := 0x1E }

def sample : Store where
  name := "SAMPLE"
  recordLength := 2
  dataOffset := 0x1E
  header := .loaded ⟨sampleImage, by decide⟩
  records := ⟨2, [[65, 66]], by decide⟩
  keys := .empty
  cursor := {}

theorem openFrom_sample :
    openFrom "SAMPLE" (some sampleImage) 2 sampleSettings = .ok sample := rfl

end RecordFile.Store
