import RecordFile.Proofs.Header

/-! # One header in two forms

The header of a file lives in the file's image, that of a new store is bare values. Both take the
same writes alike.
-/

namespace RecordFile

/-! ## Bytes of fields -/

def HeaderField.places : List Nat :=
  [0x08, 0x09, 0x14, 0x15, 0x16, 0x17, 0x18, 0x19, 0x1C, 0x1D]

theorem HeaderField.mem_places (field : HeaderField) :
    field.offset ∈ places ∧ field.offset + 1 ∈ places := by
  cases field <;> decide

/-- The same image but for the bytes of the fields. -/
structure SameOutside (bytes others : Bytes) : Prop where
  length_eq : others.length = bytes.length
  getElem?_eq : ∀ k, k ∉ HeaderField.places → others[k]? = bytes[k]?

namespace SameOutside

theorem refl (bytes : Bytes) : SameOutside bytes bytes := ⟨rfl, fun _ _ => rfl⟩

theorem trans {bytes others third : Bytes} (h : SameOutside bytes others)
    (h' : SameOutside others third) : SameOutside bytes third := by
  refine ⟨h'.length_eq.trans h.length_eq, ?_⟩
  intro k outside
  rw [h'.getElem?_eq k outside, h.getElem?_eq k outside]

end SameOutside

namespace HeaderImage

theorem sameOutside_set (image : HeaderImage) (field : HeaderField) (value : UInt16) :
    SameOutside image.bytes (image.set field value).bytes := by
  refine ⟨image.length_set field value, ?_⟩
  intro k outside
  obtain ⟨low, high⟩ := field.mem_places
  have notLow : k ≠ field.offset := fun same => outside (same ▸ low)
  have notHigh : k ≠ field.offset + 1 := fun same => outside (same ▸ high)
  unfold set
  rw [Bytes.getElem?_putWord value (image.field_inside field), if_neg notLow, if_neg notHigh]

theorem sameOutside_foldl_set (image : HeaderImage) (writes : List (HeaderField × UInt16)) :
    SameOutside image.bytes
      (writes.foldl (fun image write => image.set write.1 write.2) image).bytes := by
  induction writes generalizing image with
  | nil => exact .refl _
  | cons write rest ih => exact (image.sameOutside_set write.1 write.2).trans (ih _)

theorem write_eq_foldl (image : HeaderImage) (fields : HeaderFields) :
    image.write fields =
      (HeaderField.all.map fun field => (field, fields.get field)).foldl
        (fun image write => image.set write.1 write.2) image := by
  rw [write, List.foldl_map]

theorem write_ofValues_get (image : HeaderImage) :
    image.write (HeaderFields.ofValues image.get) = image := by
  simp [write, HeaderField.all, HeaderFields.get, HeaderFields.ofValues, set_get]

end HeaderImage

/-! ## Snapshots -/

namespace HeaderFields

theorem eq_of_get {fields other : HeaderFields} (same : ∀ field, fields.get field = other.get field) :
    fields = other := by
  have pageLength := same .pageLength
  have keyCount := same .keyCount
  have recordLength := same .recordLength
  have physicalRecordLength := same .physicalRecordLength
  have recordCount := same .recordCount
  cases fields
  cases other
  simp_all only [get]

@[simp] theorem get_ofValues (value : HeaderField → UInt16) (field : HeaderField) :
    (ofValues value).get field = value field := by cases field <;> rfl

end HeaderFields

namespace Header

@[simp] theorem get_fields (header : Header) (field : HeaderField) :
    header.fields.get field = header.get field := HeaderFields.get_ofValues _ _

theorem fields_set (header : Header) (field : HeaderField) (value : UInt16) :
    (header.set field value).fields = header.fields.set field value := by
  apply HeaderFields.eq_of_get
  intro other
  by_cases same : other = field
  · subst same
    simp
  · rw [get_fields, header.get_set_of_ne value same, HeaderFields.get_set_of_ne _ value same,
      get_fields]

/-! ## Writes one after the other -/

def setAll (header : Header) (writes : List (HeaderField × UInt16)) : Header :=
  writes.foldl (fun header write => header.set write.1 write.2) header

theorem fields_setAll (header : Header) (writes : List (HeaderField × UInt16)) :
    (header.setAll writes).fields =
      writes.foldl (fun fields write => fields.set write.1 write.2) header.fields := by
  induction writes generalizing header with
  | nil => rfl
  | cons write rest ih => simpa [setAll, fields_set] using ih (header.set write.1 write.2)

theorem setAll_loaded (image : HeaderImage) (writes : List (HeaderField × UInt16)) :
    (loaded image).setAll writes =
      loaded (writes.foldl (fun image write => image.set write.1 write.2) image) := by
  induction writes generalizing image with
  | nil => rfl
  | cons write rest ih => exact ih (image.set write.1 write.2)

end Header

def lastWritten? (field : HeaderField) : List (HeaderField × UInt16) → Option UInt16
  | [] => none
  | write :: rest =>
    (lastWritten? field rest).or (if write.1 = field then some write.2 else none)

theorem Header.get_setAll (header : Header) (writes : List (HeaderField × UInt16))
    (field : HeaderField) :
    (header.setAll writes).get field = (lastWritten? field writes).getD (header.get field) := by
  induction writes generalizing header with
  | nil => rfl
  | cons write rest ih =>
    obtain ⟨written, value⟩ := write
    refine (ih (header.set written value)).trans ?_
    rw [lastWritten?]
    cases lastWritten? field rest with
    | some last => rfl
    | none =>
      by_cases same : written = field
      · subst same
        simp
      · simp [same, header.get_set_of_ne value (Ne.symm same)]

/-! ## Both forms -/

/-- A header in an image and the values read from it agree after any writes. -/
theorem Header.forms_agree {bytes : Bytes} (room : minHeaderSize ≤ bytes.length) :
    ∃ header, Header.ofImage bytes = .ok header ∧ header.isLoaded ∧
      (∀ writes,
        let written := header.setAll writes
        let bareWritten := (Header.bare header.fields).setAll writes
        (∀ field, written.get field = bareWritten.get field ∧
          written.get field = (lastWritten? field writes).getD (header.get field)) ∧
        written.fields = bareWritten.fields ∧
        ∃ others, written.image? = some others ∧ SameOutside bytes others) ∧
      (∀ fields : HeaderFields, ∃ buffer again, fields.writeTo? bytes = some buffer ∧
        Header.ofImage buffer = .ok again ∧ again.fields = fields ∧ SameOutside bytes buffer) ∧
      header.fields.writeTo? bytes = some bytes := by
  let image : HeaderImage := ⟨bytes, room⟩
  have ofImage_image (image : HeaderImage) : Header.ofImage image.bytes = .ok (loaded image) := by
    simp [ofImage, HeaderImage.ofBytes, image.room, Except.map]
  have writeTo?_bytes (fields : HeaderFields) :
      fields.writeTo? bytes = some (image.write fields).bytes := if_pos room
  refine ⟨loaded image, ofImage_image image, rfl, ?_, ?_, ?_⟩
  · intro writes written bareWritten
    -- One snapshot for both forms tells each field of both.
    have snapshots : written.fields = bareWritten.fields := by
      rw [fields_setAll, fields_setAll]
      rfl
    refine ⟨?_, snapshots, ?_⟩
    · intro field
      refine ⟨?_, get_setAll _ _ _⟩
      rw [← get_fields, snapshots, get_fields]
    · exact ⟨_, congrArg image? (setAll_loaded image writes), image.sameOutside_foldl_set writes⟩
  · intro fields
    refine ⟨_, loaded (image.write fields), writeTo?_bytes fields, ofImage_image _, ?_, ?_⟩
    · apply HeaderFields.eq_of_get
      intro field
      rw [get_fields]
      exact image.get_write fields field
    · rw [image.write_eq_foldl]
      exact image.sameOutside_foldl_set _
  · rw [writeTo?_bytes]
    exact congrArg (fun image => some image.bytes) image.write_ofValues_get

/-- A byte in each place of the image, and two writes to neighbours. -/
theorem Header.forms_agree_sample :
    let bytes : Bytes := (List.range 30).map UInt8.ofNat
    minHeaderSize ≤ bytes.length ∧
      ∃ header, Header.ofImage bytes = .ok header ∧
        let written := header.setAll [(.recordLength, 0x1234), (.keyCount, 7), (.recordLength, 9)]
        written.get .recordLength = 9 ∧ written.get .keyCount = 7 ∧
        written.get .physicalRecordLength = 0x1918 ∧
        header.fields.writeTo? bytes = some bytes := by
  intro bytes
  have room : minHeaderSize ≤ bytes.length := by decide
  obtain ⟨header, opened, -, agree, -, back⟩ := Header.forms_agree room
  have first : header.get .physicalRecordLength = 0x1918 := by
    cases opened
    decide
  have reads field := ((agree [(.recordLength, 0x1234), (.keyCount, 7), (.recordLength, 9)]).1
    field).2
  refine ⟨room, header, opened, reads .recordLength, reads .keyCount, ?_, back⟩
  exact (reads .physicalRecordLength).trans first

end RecordFile
