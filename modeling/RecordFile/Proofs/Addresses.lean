import RecordFile.Proofs.Bytes
import RecordFile.Image.Layout

/-! # Reckoning with addresses

Every sum and every product must stay below the address limit, and every piece of an image must lie
inside it. What cannot be done is none.
-/

namespace RecordFile

/-! ## Sums and products -/

namespace Address

def sum? (a b : Nat) : Option Nat := if a + b < addressLimit then some (a + b) else none

def product? (a b : Nat) : Option Nat := if a * b < addressLimit then some (a * b) else none

def rowsEnd? (dataOffset recordLength count : Nat) : Option Nat := do
  let size ← product? recordLength count
  sum? dataOffset size

/-- Where a row begins, if its end is an address too. -/
def rowStart? (dataOffset recordLength index : Nat) : Option Nat := do
  let skipped ← product? index recordLength
  let start ← sum? dataOffset skipped
  let _ ← sum? start recordLength
  return start

theorem rowsEnd?_eq (dataOffset recordLength count : Nat) :
    rowsEnd? dataOffset recordLength count =
      if dataOffset + recordLength * count < addressLimit then
        some (dataOffset + recordLength * count)
      else none := by
  unfold rowsEnd? product? sum?
  by_cases inside : recordLength * count < addressLimit
  · simp [inside]
  · have past : ¬dataOffset + recordLength * count < addressLimit := by omega
    simp [inside, past]

theorem rowStart?_eq_some {dataOffset recordLength index : Nat}
    (inside : dataOffset + recordLength * index + recordLength < addressLimit) :
    rowStart? dataOffset recordLength index = some (dataOffset + recordLength * index) := by
  unfold rowStart? product? sum?
  rw [Nat.mul_comm index recordLength, if_pos (by omega)]
  simp only [Option.bind_eq_bind, Option.bind_some]
  rw [if_pos (by omega)]
  simp only [Option.bind_some]
  rw [if_pos inside]
  rfl

end Address

/-! ## Reading rows -/

namespace Bytes

def readRows? (image : Bytes) (dataOffset recordLength : Nat) : Nat → Nat → Option (List Bytes)
  | _, 0 => some []
  | index, count + 1 => do
    let start ← Address.rowStart? dataOffset recordLength index
    let row ← image.slice? start recordLength
    let rest ← readRows? image dataOffset recordLength (index + 1) count
    return row :: rest

theorem readRows?_eq {image : Bytes} {dataOffset recordLength index count : Nat}
    (small : image.length < addressLimit)
    (inside : 0 < count →
      dataOffset + recordLength * index + recordLength * count ≤ image.length) :
    image.readRows? dataOffset recordLength index count =
      some (pieces recordLength count (image.drop (dataOffset + recordLength * index))) := by
  induction count generalizing index with
  | zero => rfl
  | succ count ih =>
    have room := inside (by omega)
    rw [Nat.mul_succ] at room
    have rowEnd : dataOffset + recordLength * index + recordLength ≤ image.length := by omega
    have later : image.readRows? dataOffset recordLength (index + 1) count = _ :=
      ih (by rw [Nat.mul_succ]; omega)
    rw [readRows?, Address.rowStart?_eq_some (by omega), later, pieces, List.drop_drop,
      Nat.mul_succ, Nat.add_assoc]
    simp [slice?, rowEnd, ← Nat.add_assoc]

/-! ## Writing rows -/

/-- The row must be of the right length and lie inside. -/
def putRow? (image : Bytes) (start recordLength : Nat) (row : Bytes) : Option Bytes :=
  if start + recordLength ≤ image.length ∧ row.length = recordLength then
    some (image.overlay start row)
  else none

def writeRows? (dataOffset recordLength : Nat) : Nat → List Bytes → Bytes → Option Bytes
  | _, [], image => some image
  | index, row :: rest, image => do
    let start ← Address.rowStart? dataOffset recordLength index
    let image ← image.putRow? start recordLength row
    writeRows? dataOffset recordLength (index + 1) rest image

theorem overlay_overlay {bytes first second : Bytes} {offset : Nat}
    (inside : offset + first.length + second.length ≤ bytes.length) :
    overlay (overlay bytes offset first) (offset + first.length) second =
      overlay bytes offset (first ++ second) := by
  have length := length_overlay (show offset + first.length ≤ bytes.length by omega)
  have both : offset + (first ++ second).length ≤ bytes.length := by
    rw [List.length_append]
    omega
  apply List.ext_getElem?
  intro k
  rw [getElem?_overlay (by omega), getElem?_overlay both, getElem?_overlay (by omega),
    List.getElem?_append, List.length_append]
  by_cases inSecond : offset + first.length ≤ k ∧ k < offset + first.length + second.length
  · rw [if_pos inSecond, if_pos (by omega), if_neg (by omega), Nat.sub_add_eq]
  · rw [if_neg inSecond]
    by_cases inFirst : offset ≤ k ∧ k < offset + first.length
    · rw [if_pos inFirst, if_pos (by omega), if_pos (by omega)]
    · rw [if_neg inFirst, if_neg (by omega)]

theorem writeRows?_eq {dataOffset recordLength index : Nat} {rows : List Bytes} {image : Bytes}
    (small : dataOffset + recordLength * index + recordLength * rows.length < addressLimit)
    (inside : dataOffset + recordLength * index + recordLength * rows.length ≤ image.length)
    (uniform : ∀ row ∈ rows, row.length = recordLength) :
    writeRows? dataOffset recordLength index rows image =
      some (image.overlay (dataOffset + recordLength * index) rows.flatten) := by
  induction rows generalizing index image with
  | nil => simp [writeRows?, overlay_nil]
  | cons row rest ih =>
    obtain ⟨whole, others⟩ := List.forall_mem_cons.mp uniform
    have restLength := length_flatten_of_uniform others
    rw [List.length_cons, Nat.mul_succ] at small inside
    have kept : (image.overlay (dataOffset + recordLength * index) row).length = image.length :=
      length_overlay (by omega)
    have later : writeRows? dataOffset recordLength (index + 1) rest
        (image.overlay (dataOffset + recordLength * index) row) = _ :=
      ih (by rw [Nat.mul_succ]; omega) (by rw [Nat.mul_succ, kept]; omega) others
    rw [writeRows?, Address.rowStart?_eq_some (by omega)]
    simp only [Option.bind_eq_bind, Option.bind_some, putRow?]
    rw [if_pos ⟨by omega, whole⟩, Option.bind_some, later, Nat.mul_succ, List.flatten_cons,
      ← overlay_overlay (by omega), whole, Nat.add_assoc]

end Bytes

end RecordFile
