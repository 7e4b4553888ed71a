import RecordFile.Image.Fields
import RecordFile.Proofs.Bytes

/-! # Header fields are independent

A field that is set is read back, in the image of a file and among bare values, and every
other field keeps its value.
-/

namespace RecordFile

theorem HeaderField.apart {field other : HeaderField} (h : other ≠ field) :
    field.offset + 2 ≤ other.offset ∨ other.offset + 2 ≤ field.offset := by
  cases field <;> cases other <;> first | exact absurd rfl h | decide

/-! ## Values -/

namespace HeaderFields

theorem set_get (fields : HeaderFields) (field : HeaderField) :
    fields.set field (fields.get field) = fields := by cases field <;> rfl

theorem set_set (fields : HeaderFields) (field : HeaderField) (first last : UInt16) :
    (fields.set field first).set field last = fields.set field last := by cases field <;> rfl

end HeaderFields

/-! ## Fields inside an image -/

namespace HeaderImage

theorem eq_of_bytes {image other : HeaderImage} (h : image.bytes = other.bytes) :
    image = other := by
  cases image
  cases other
  subst h
  rfl

theorem field_inside (image : HeaderImage) (field : HeaderField) :
    field.offset + 2 ≤ image.bytes.length :=
  Nat.le_trans field.offset_add_two_le image.room

@[simp] theorem get_set_self (image : HeaderImage) (field : HeaderField) (value : UInt16) :
    (image.set field value).get field = value :=
  Bytes.wordAt_putWord_self value _ (image.field_inside field)

theorem get_set_of_ne (image : HeaderImage) {field other : HeaderField} (value : UInt16)
    (h : other ≠ field) : (image.set field value).get other = image.get other :=
  Bytes.wordAt_putWord_of_apart value (image.field_inside field) _ (image.field_inside other)
    (HeaderField.apart h)

theorem set_get (image : HeaderImage) (field : HeaderField) :
    image.set field (image.get field) = image :=
  eq_of_bytes (Bytes.putWord_wordAt (image.field_inside field))

theorem set_set (image : HeaderImage) (field : HeaderField) (first last : UInt16) :
    (image.set field first).set field last = image.set field last :=
  eq_of_bytes (Bytes.putWord_putWord first last (image.field_inside field))

theorem get_congr {image other : HeaderImage}
    (same : ∀ k, k < minHeaderSize → image.bytes[k]? = other.bytes[k]?) (field : HeaderField) :
    image.get field = other.get field := by
  have inside := field.offset_add_two_le
  exact Bytes.wordAt_congr _ _ (same _ (by omega)) (same _ (by omega))

def write (image : HeaderImage) (fields : HeaderFields) : HeaderImage :=
  HeaderField.all.foldl (fun image field => image.set field (fields.get field)) image

theorem get_write (image : HeaderImage) (fields : HeaderFields) (field : HeaderField) :
    (image.write fields).get field = fields.get field := by
  simp only [write, HeaderField.all, List.foldl_cons, List.foldl_nil]
  cases field
  case recordCount => exact get_set_self ..
  all_goals
    repeat rw [get_set_of_ne _ _ (by decide)]
    exact get_set_self ..

end HeaderImage

/-! ## Headers -/

namespace Header

@[simp] theorem get_set_self (header : Header) (field : HeaderField) (value : UInt16) :
    (header.set field value).get field = value := by
  cases header with
  | loaded image => exact image.get_set_self field value
  | bare fields => exact fields.get_set_self field value

theorem get_set_of_ne (header : Header) {field other : HeaderField} (value : UInt16)
    (h : other ≠ field) : (header.set field value).get other = header.get other := by
  cases header with
  | loaded image => exact image.get_set_of_ne value h
  | bare fields => exact fields.get_set_of_ne value h

theorem set_get (header : Header) (field : HeaderField) :
    header.set field (header.get field) = header := by
  cases header with
  | loaded image => exact congrArg loaded (image.set_get field)
  | bare fields => exact congrArg bare (fields.set_get field)

theorem set_set (header : Header) (field : HeaderField) (first last : UInt16) :
    (header.set field first).set field last = header.set field last := by
  cases header with
  | loaded image => exact congrArg loaded (image.set_set field first last)
  | bare fields => exact congrArg bare (fields.set_set field first last)

theorem toNat_get_set_recordCount (header : Header) {count : Nat} (few : count ≤ maxRecords) :
    ((header.set .recordCount (UInt16.ofNat count)).get .recordCount).toNat = count := by
  have fits : count < 65536 := Nat.lt_succ_of_le few
  rw [get_set_self, UInt16.toNat_ofNat', Nat.mod_eq_of_lt fits]

/-! ## Starting images -/

theorem room_startingImage (header : Header) {size : Nat} (large : minHeaderSize ≤ size) :
    minHeaderSize ≤ (header.startingImage size).length := by
  cases header with
  | loaded image => exact image.room
  | bare fields =>
    have zeros : minHeaderSize ≤ (List.replicate size (0 : UInt8)).length := by simpa using large
    exact (HeaderImage.write ⟨_, zeros⟩ fields).room

theorem get_startingImage (header : Header) {size : Nat} (large : minHeaderSize ≤ size)
    (field : HeaderField) :
    HeaderImage.get ⟨header.startingImage size, header.room_startingImage large⟩ field =
      header.get field := by
  cases header with
  | loaded image => rfl
  | bare fields =>
    have zeros : minHeaderSize ≤ (List.replicate size (0 : UInt8)).length := by simpa using large
    exact HeaderImage.get_write ⟨_, zeros⟩ fields field

end Header

/-- Zeros, and the record length in both of its fields. -/
def blankImage (recordLength : UInt16) (size : Nat) : Bytes :=
  Bytes.putWord (Bytes.putWord (List.replicate size 0) 0x16 recordLength) 0x18 recordLength

theorem length_putWord_zeros (recordLength : UInt16) {size : Nat} (large : minHeaderSize ≤ size) :
    (Bytes.putWord (List.replicate size 0) 0x16 recordLength).length = size := by
  unfold minHeaderSize at large
  rw [Bytes.length_putWord _ (by simp; omega), List.length_replicate]

theorem length_blankImage (recordLength : UInt16) {size : Nat} (large : minHeaderSize ≤ size) :
    (blankImage recordLength size).length = size := by
  have first := length_putWord_zeros recordLength large
  unfold minHeaderSize at large
  rw [blankImage, Bytes.length_putWord _ (by omega), first]

theorem getElem?_blankImage_of_gt (recordLength : UInt16) {size k : Nat}
    (large : minHeaderSize ≤ size) (behind : 0x19 < k) (inside : k < size) :
    (blankImage recordLength size)[k]? = some 0 := by
  have first := length_putWord_zeros recordLength large
  unfold minHeaderSize at large
  rw [blankImage, Bytes.getElem?_putWord _ (by omega), if_neg (by omega), if_neg (by omega),
    Bytes.getElem?_putWord _ (by simp; omega), if_neg (by omega), if_neg (by omega),
    List.getElem?_replicate_of_lt inside]

theorem putWord_zero_replicate {offset size : Nat} (inside : offset + 2 ≤ size) :
    Bytes.putWord (List.replicate size 0) offset 0 = List.replicate size 0 := by
  apply List.ext_getElem?
  intro k
  rw [Bytes.getElem?_putWord _ (by simpa using inside), List.getElem?_replicate]
  split
  · rw [if_pos (by omega)]; rfl
  · split
    · rw [if_pos (by omega)]; rfl
    · rfl

theorem Header.startingImage_new (recordLength recordCount : UInt16) {size : Nat}
    (large : minHeaderSize ≤ size) :
    ((Header.new recordLength).set .recordCount recordCount).startingImage size =
      Bytes.putWord (blankImage recordLength size) 0x1C recordCount := by
  unfold minHeaderSize at large
  have written : ((Header.new recordLength).set .recordCount recordCount).startingImage size =
      Bytes.putWord (Bytes.putWord (Bytes.putWord (Bytes.putWord (Bytes.putWord
        (List.replicate size 0) 0x08 0) 0x14 0) 0x16 recordLength) 0x18 recordLength)
        0x1C recordCount := rfl
  rw [written, putWord_zero_replicate (by omega), putWord_zero_replicate (by omega)]
  rfl

theorem Header.startingImage_new_zero (recordLength : UInt16) {size : Nat}
    (large : minHeaderSize ≤ size) :
    (Header.new recordLength).startingImage size = blankImage recordLength size := by
  refine (startingImage_new recordLength 0 large).trans ?_
  have whole := length_blankImage recordLength large
  have zero (k : Nat) := getElem?_blankImage_of_gt recordLength (k := k) large
  unfold minHeaderSize at large
  have inside : 0x1C + 2 ≤ (blankImage recordLength size).length := by omega
  have word := Bytes.wordAt_eq_of_getElem? inside (zero _ (by omega) (by omega))
    (zero _ (by omega) (by omega))
  conv => rhs; rw [← Bytes.putWord_wordAt inside, word]
  rfl

end RecordFile
