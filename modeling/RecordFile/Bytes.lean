/-! # Bytes

A word is two bytes with the low one first. Reading past the end gives nothing, and writing in place
keeps the length as long as the place is inside.
-/

namespace RecordFile

abbrev Bytes := List UInt8

namespace Bytes

/-! ## Cutting -/

def slice? (bytes : Bytes) (offset n : Nat) : Option Bytes :=
  if offset + n ≤ bytes.length then some ((bytes.drop offset).take n) else none

/-- The first `count` pieces of `n` bytes each. Pieces at the end may be short. -/
def pieces (n : Nat) : Nat → Bytes → List Bytes
  | 0, _ => []
  | count + 1, bytes => bytes.take n :: pieces n count (bytes.drop n)

@[simp] theorem length_pieces (n count : Nat) (bytes : Bytes) :
    (pieces n count bytes).length = count := by
  induction count generalizing bytes with
  | zero => rfl
  | succ count ih => simp [pieces, ih]

theorem length_of_mem_pieces {n count : Nat} {bytes piece : Bytes}
    (enough : n * count ≤ bytes.length) (h : piece ∈ pieces n count bytes) :
    piece.length = n := by
  induction count generalizing bytes with
  | zero => simp [pieces] at h
  | succ count ih =>
    rw [Nat.mul_succ] at enough
    rcases List.mem_cons.mp h with rfl | h
    · simp only [List.length_take]; omega
    · exact ih (by simp only [List.length_drop]; omega) h

def lines (n : Nat) (bytes : Bytes) : List Bytes :=
  pieces n ((bytes.length + (n - 1)) / n) bytes

/-! ## Writing in place -/

/-- Zeros are added up to length `n`. Longer bytes stay as they are. -/
def padTo (bytes : Bytes) (n : Nat) : Bytes :=
  bytes ++ List.replicate (n - bytes.length) 0

/-- The bytes with `data` written over them from `offset` on. -/
def overlay (bytes : Bytes) (offset : Nat) (data : Bytes) : Bytes :=
  bytes.take offset ++ data ++ bytes.drop (offset + data.length)

@[simp] theorem length_padTo (bytes : Bytes) (n : Nat) :
    (padTo bytes n).length = max bytes.length n := by
  simp [padTo]; omega

theorem length_overlay {bytes data : Bytes} {offset : Nat}
    (inside : offset + data.length ≤ bytes.length) :
    (overlay bytes offset data).length = bytes.length := by
  simp [overlay]; omega

/-! ## Words -/

def word (low high : UInt8) : UInt16 := UInt16.ofNat (low.toNat + 256 * high.toNat)

def lowByte (w : UInt16) : UInt8 := UInt8.ofNat (w.toNat % 256)

def highByte (w : UInt16) : UInt8 := UInt8.ofNat (w.toNat / 256)

def ofWord (w : UInt16) : Bytes := [lowByte w, highByte w]

def wordAt (bytes : Bytes) (offset : Nat) (inside : offset + 2 ≤ bytes.length) : UInt16 :=
  word bytes[offset] bytes[offset + 1]

def putWord (bytes : Bytes) (offset : Nat) (w : UInt16) : Bytes :=
  overlay bytes offset (ofWord w)

theorem length_putWord {bytes : Bytes} {offset : Nat} (w : UInt16)
    (inside : offset + 2 ≤ bytes.length) : (putWord bytes offset w).length = bytes.length :=
  length_overlay inside

@[simp] theorem word_bytes (w : UInt16) : word (lowByte w) (highByte w) = w := by
  have h := w.toNat_lt
  apply UInt16.toNat_inj.mp
  simp only [word, lowByte, highByte, UInt8.toNat_ofNat', UInt16.toNat_ofNat']
  omega

@[simp] theorem lowByte_word (low high : UInt8) : lowByte (word low high) = low := by
  have hl := low.toNat_lt
  have hh := high.toNat_lt
  apply UInt8.toNat_inj.mp
  simp only [word, lowByte, UInt8.toNat_ofNat', UInt16.toNat_ofNat']
  omega

@[simp] theorem highByte_word (low high : UInt8) : highByte (word low high) = high := by
  have hl := low.toNat_lt
  have hh := high.toNat_lt
  apply UInt8.toNat_inj.mp
  simp only [word, highByte, UInt8.toNat_ofNat', UInt16.toNat_ofNat']
  omega

end Bytes

end RecordFile
