import RecordFile.Proofs.Store.Export

/-! # Reading an export back

The exported image of a store opens again, with the same records under the same header, and
exports itself.
-/

namespace RecordFile.Store

variable {first store : Store}

/-! ## What lies in an image -/

theorem Follows.length_flatten (h : Follows first store) :
    store.records.flatten.length = store.recordLength.toNat * store.records.count := by
  rw [Records.length_flatten, h.rowLength_eq, h.recordLength_eq]

theorem Follows.recordsEnd_le (h : Follows first store) :
    store.dataOffset + store.records.flatten.length ≤
      ((store.header.startingImage store.dataOffset).padTo store.recordsEnd).length := by
  rw [Bytes.length_padTo, recordsEnd, h.length_flatten]
  omega

theorem Follows.length_image (h : Follows first store) :
    store.image.length =
      max (store.header.startingImage store.dataOffset).length store.recordsEnd := by
  unfold image
  rw [Bytes.length_overlay h.recordsEnd_le, Bytes.length_padTo]

theorem Follows.drop_image (h : Follows first store) :
    ∃ rest, store.image.drop store.dataOffset = store.records.rows.flatten ++ rest :=
  ⟨_, Bytes.drop_overlay (Nat.le_trans (Nat.le_add_right _ _) h.recordsEnd_le)⟩

theorem Follows.room_image (h : Follows first store) (high : minHeaderSize ≤ store.dataOffset) :
    minHeaderSize ≤ store.image.length := by
  have room := store.header.room_startingImage high
  rw [h.length_image]
  omega

theorem Follows.get_image (h : Follows first store) (high : minHeaderSize ≤ store.dataOffset)
    (field : HeaderField) :
    HeaderImage.get ⟨store.image, h.room_image high⟩ field = store.header.get field := by
  have room := store.header.room_startingImage high
  rw [← store.header.get_startingImage high]
  apply HeaderImage.get_congr
  intro k low
  -- The records begin behind the header.
  change (Bytes.overlay _ _ _)[k]? = _
  rw [Bytes.getElem?_overlay h.recordsEnd_le, if_neg (by omega), Bytes.getElem?_padTo,
    if_pos (by omega)]

/-! ## Opening an export -/

theorem Follows.load_image (h : Follows first store) (high : minHeaderSize ≤ store.dataOffset)
    (representable : store.recordsEnd < addressLimit) :
    Records.load store.image store.dataOffset store.recordLength.toNat
      (HeaderImage.get ⟨store.image, h.room_image high⟩ .recordCount).toNat =
        .ok store.records := by
  have count : (HeaderImage.get ⟨store.image, h.room_image high⟩ .recordCount).toNat =
      store.records.rows.length := by
    rw [h.get_image high]
    exact h.count_toNat
  have rowLength : store.records.recordLength = store.recordLength.toNat := by
    rw [h.rowLength_eq, h.recordLength_eq]
  obtain ⟨rest, area⟩ := h.drop_image
  rw [count, Records.load_eq_ok_iff]
  refine ⟨representable, fun _ => ?_, rowLength, ?_⟩
  · rw [h.length_image]
    exact Nat.le_max_right _ _
  · rw [area, Bytes.pieces_flatten_append]
    intro row mem
    rw [← rowLength, store.records.uniform row mem]

theorem Follows.ofImage_image (h : Follows first store) (high : minHeaderSize ≤ store.dataOffset)
    (representable : store.recordsEnd < addressLimit) (newName : String) {settings : Settings}
    (sameOffset : settings.dataOffset = store.dataOffset) :
    ofImage newName store.image store.recordLength settings = .ok {
      name := newName
      recordLength := store.recordLength
      dataOffset := settings.dataOffset
      header := .loaded ⟨store.image, h.room_image high⟩
      records := store.records
      keys := .empty
      cursor := {} } := by
  rw [ofImage_eq_ok_iff, sameOffset]
  exact ⟨high, h.room_image high, store.records, h.load_image high representable, rfl⟩

variable {name : String} {image? : Option Bytes} {recordLength : UInt16} {settings : Settings}

theorem exists_ofImage_image {image : Bytes}
    (opened : ofImage name image recordLength settings = .ok store) (newName : String) :
    store.image = image.padTo settings.dataOffset ∧
    ∃ again, ofImage newName store.image recordLength settings = .ok again ∧
      again.records = store.records ∧ again.header.fields = store.header.fields ∧
      again.image = store.image := by
  have began : openFrom name (some image) recordLength settings = .ok store := opened
  have follows := follows_of_openFrom began
  obtain ⟨high, -, rfl, offset, -, -⟩ := settled_of_openFrom began
  have padded : store.image = image.padTo settings.dataOffset := image_of_openFrom began
  rw [← offset] at high
  have reopened := follows.ofImage_image high (recordsEnd_of_openFrom_some began).1 newName
    offset.symm
  refine ⟨padded, _, reopened, rfl,
    congrArg HeaderFields.ofValues (funext (follows.get_image high)), ?_⟩
  have again : openFrom newName (some store.image) _ settings = .ok _ := reopened
  have long : settings.dataOffset ≤ store.image.length := by
    rw [padded, Bytes.length_padTo]
    exact Nat.le_max_right _ _
  exact (image_of_openFrom again).trans (Bytes.padTo_of_le long)

/-- An export opens again as it was, but for the keys and the cursor. -/
theorem ofImage_image_run (opened : openFrom name image? recordLength settings = .ok store)
    (operations : List Operation)
    (representable : (store.run operations).recordsEnd < addressLimit) (newName : String) :
    ∃ again, ofImage newName (store.run operations).image (store.run operations).recordLength
        settings = .ok again ∧
      again.records = (store.run operations).records ∧
      again.count = (store.run operations).count ∧
      again.header.fields = (store.run operations).header.fields ∧
      again.keys = .empty ∧
      again.position = 0 ∧
      again.image = (store.run operations).image := by
  have follows := follows_run opened operations
  obtain ⟨high, -, -, offset, -, -⟩ := settled_of_openFrom opened
  have sameOffset := follows.dataOffset_eq.trans offset
  rw [← sameOffset] at high
  have reopened := follows.ofImage_image high representable newName sameOffset.symm
  have get := follows.get_image high
  refine ⟨_, reopened, rfl, get .recordCount, congrArg HeaderFields.ofValues (funext get), rfl,
    rfl, ?_⟩
  have again : openFrom newName (some (store.run operations).image) _ settings = .ok _ := reopened
  -- The export reaches past the start of the records, so no zeros are added to it again.
  have covered : settings.dataOffset ≤ (store.run operations).image.length := by
    rw [follows.length_image, recordsEnd, sameOffset]
    omega
  exact (image_of_openFrom again).trans (Bytes.padTo_of_le covered)

theorem ofImage_image_run_sample :
    let last := sample.run [.insert 1 [67, 68], .defineKey 0 0 [0, 0, 0, 0], .stepNext]
    last.recordsEnd < addressLimit ∧
      ∃ again, ofImage "AGAIN" last.image 2 sampleSettings = .ok again ∧
        again.records.rows = [[65, 66], [67, 68]] ∧ again.keys = .empty ∧ again.position = 0 ∧
        again.image = last.image := by
  intro last
  have small : last.recordsEnd < addressLimit := by decide
  obtain ⟨again, opened, records, -, -, keys, position, image⟩ :=
    ofImage_image_run openFrom_sample
      [.insert 1 [67, 68], .defineKey 0 0 [0, 0, 0, 0], .stepNext] small "AGAIN"
  exact ⟨small, again, opened, by rw [records]; rfl, keys, position, image⟩

end RecordFile.Store
