import Mathlib.Data.List.Basic
import RecordFile.Proofs.Store.Lookups

/-! # Key descriptors written and read

A descriptor gives back the parts that it was put together from. Nothing that is asked of a key
reaches outside of its descriptor.
-/

namespace RecordFile

/-! ## Tails -/

structure Tail where
  b0 : UInt8
  b1 : UInt8
  b2 : UInt8
  b3 : UInt8
  deriving DecidableEq, Repr

namespace Tail

def toBytes (tail : Tail) : Bytes := [tail.b0, tail.b1, tail.b2, tail.b3]

def number (tail : Tail) : UInt32 := wordPair tail.b0 tail.b1 tail.b2 tail.b3

def ofNumber (n : UInt32) : Tail where
  b0 := UInt8.ofNat (n.toNat % 256)
  b1 := UInt8.ofNat (n.toNat / 256 % 256)
  b2 := UInt8.ofNat (n.toNat / 65536 % 256)
  b3 := UInt8.ofNat (n.toNat / 16777216)

def offset (tail : Tail) : UInt32 := swappedOffset tail.b0 tail.b1 tail.b2 tail.b3

def ofOffset (offset : UInt32) : Tail := ofNumber (swapHalves offset)

theorem offset_eq (tail : Tail) : tail.offset = swapHalves tail.number := rfl

@[simp] theorem number_ofNumber (n : UInt32) : (ofNumber n).number = n := by
  have bound := n.toNat_lt
  apply UInt32.toNat_inj.mp
  simp only [ofNumber, number, wordPair, UInt8.toNat_ofNat', UInt32.toNat_ofNat']
  omega

theorem toNat_number (tail : Tail) : tail.number.toNat = tail.b0.toNat + 256 * tail.b1.toNat +
    65536 * tail.b2.toNat + 16777216 * tail.b3.toNat := by
  have bound0 := tail.b0.toNat_lt
  have bound1 := tail.b1.toNat_lt
  have bound2 := tail.b2.toNat_lt
  have bound3 := tail.b3.toNat_lt
  rw [number, wordPair, UInt32.toNat_ofNat', Nat.mod_eq_of_lt (by omega)]

@[simp] theorem ofNumber_number (tail : Tail) : ofNumber tail.number = tail := by
  have bound0 := tail.b0.toNat_lt
  have bound1 := tail.b1.toNat_lt
  have bound2 := tail.b2.toNat_lt
  have bound3 := tail.b3.toNat_lt
  unfold ofNumber
  rw [toNat_number]
  cases tail
  simp only [mk.injEq, ← UInt8.toNat_inj, UInt8.toNat_ofNat'] at *
  omega

@[simp] theorem offset_ofNumber (n : UInt32) : (ofNumber n).offset = swapHalves n := by
  rw [offset_eq, number_ofNumber]

@[simp] theorem offset_ofOffset (offset : UInt32) : (ofOffset offset).offset = offset := by
  rw [ofOffset, offset_ofNumber, swapHalves_swapHalves]

/-- Reading an offset is undone by reading once more what was read. -/
theorem offset_eq_iff {tail : Tail} {offset : UInt32} :
    tail.offset = offset ↔ tail = ofNumber (ofNumber offset).offset := by
  constructor
  · rintro rfl
    rw [offset_ofNumber, offset_eq, swapHalves_swapHalves, ofNumber_number]
  · rintro rfl
    rw [offset_ofNumber, offset_ofNumber, swapHalves_swapHalves]

theorem offset_bijective : Function.Bijective offset := by
  constructor
  · intro tail other same
    exact (offset_eq_iff.mp same).trans (offset_eq_iff.mp rfl).symm
  · intro offset
    exact ⟨ofOffset offset, offset_ofOffset offset⟩

end Tail

/-! ## Accepted descriptors -/

namespace Key

variable {key : Key} {number length : UInt16} {data front record sought : Bytes} {tail : Tail}

theorem ofBytes_eq_ok_iff : ofBytes number length data = .ok key ↔
    key.number = number ∧ key.length = length ∧ key.data = data := by
  unfold ofBytes
  constructor
  · intro made
    split at made
    · cases made
      exact ⟨rfl, rfl, rfl⟩
    · cases made
  · rintro ⟨rfl, rfl, rfl⟩
    exact dif_pos key.room

theorem exists_ofBytes_iff (number : UInt16) : (∃ key, ofBytes number length data = .ok key) ↔
    4 + length.toNat ≤ data.length := by
  simp only [ofBytes_eq_ok_iff]
  constructor
  · rintro ⟨key, -, rfl, rfl⟩
    exact key.room
  · intro room
    exact ⟨⟨number, length, data, room⟩, rfl, rfl, rfl⟩

theorem ofBytes_short (short : data.length < 4 + length.toNat) : ofBytes number length data =
    .error (.invalidKeyDescriptor number.toNat data.length (4 + length.toNat)) :=
  dif_neg (Nat.not_le_of_lt short)

theorem four_le_length (key : Key) : offsetTailLength ≤ key.data.length :=
  Nat.le_trans (Nat.le_add_right _ _) key.room

theorem offset_of_data (ends : key.data = front ++ tail.toBytes) : key.offset = tail.offset := by
  obtain ⟨number, length, data, room⟩ := key
  dsimp only at ends
  subst ends
  simp [offset, Tail.offset, Tail.toBytes]

/-- The tail is there also where the sample key overlaps it. -/
theorem exists_tail (key : Key) : ∃ tail : Tail,
    key.data = key.data.take (key.data.length - offsetTailLength) ++ tail.toBytes := by
  have four : (key.data.drop (key.data.length - offsetTailLength)).length = 4 := by
    rw [List.length_drop]
    exact Nat.sub_sub_self key.four_le_length
  obtain ⟨b0, b1, b2, b3, last⟩ := List.length_eq_four.mp four
  refine ⟨⟨b0, b1, b2, b3⟩, ?_⟩
  rw [Tail.toBytes, ← last, List.take_append_drop]

theorem sampleKey_of_data {leading sample rest : Bytes} (start : leading.length = sampleKeyStart)
    (length : key.length.toNat = sample.length) (parts : key.data = leading ++ (sample ++ rest)) :
    key.sampleKey = sample := by
  rw [sampleKey, parts, List.drop_left' start, length, List.take_left]

/-! ## Steps that stay inside -/

/-- None is what must not be: the tail or its bytes not found. -/
def offsetInSteps? (key : Key) : Option UInt32 :=
  if offsetTailLength ≤ key.data.length then
    match key.data.drop (key.data.length - offsetTailLength) with
    | [b0, b1, b2, b3] => some (swappedOffset b0 b1 b2 b3)
    | _ => none
  else none

def sampleKeyInSteps? (key : Key) : Option Bytes := do
  let stop ← Address.sum? sampleKeyStart key.length.toNat
  key.data.slice? sampleKeyStart (stop - sampleKeyStart)

/-- The end stops at the last address. -/
def fieldInSteps? (key : Key) : Option (Nat × Nat) := do
  let start ← key.offsetInSteps?
  return (start.toNat, min (start.toNat + key.length.toNat) (addressLimit - 1))

theorem offsetInSteps?_eq (key : Key) : key.offsetInSteps? = some key.offset := by
  obtain ⟨tail, ends⟩ := key.exists_tail
  have last : key.data.drop (key.data.length - offsetTailLength) = tail.toBytes :=
    List.append_cancel_left ((List.take_append_drop _ _).trans ends)
  rw [offsetInSteps?, if_pos key.four_le_length, last, offset_of_data ends]
  rfl

theorem sampleKeyInSteps?_eq (key : Key) : key.sampleKeyInSteps? = some key.sampleKey := by
  have stop : sampleKeyStart + key.length.toNat < addressLimit := by
    have length := key.length.toNat_lt
    unfold sampleKeyStart addressLimit
    omega
  simp [sampleKeyInSteps?, Address.sum?, stop, Bytes.slice?, key.room, sampleKey]

theorem fieldInSteps?_eq (key : Key) :
    key.fieldInSteps? = some (key.fieldStart, key.fieldEnd) := by
  have reachable := Nat.min_eq_left (Nat.le_of_lt key.fieldEnd_lt)
  rw [fieldEnd, fieldStart] at reachable
  simp [fieldInSteps?, offsetInSteps?_eq, reachable, fieldEnd, fieldStart]

theorem fieldBegins_iff_slice : key.fieldBegins record sought = true ↔
    sought.length ≤ key.length.toNat ∧ key.offset.toNat + sought.length ≤ record.length ∧
      (record.drop key.offset.toNat).take sought.length = sought := by
  simp only [fieldBegins, fieldStart, Bytes.slice?, Bool.and_eq_true, decide_eq_true_eq,
    beq_iff_eq]
  refine and_congr_right fun _ => ?_
  by_cases inside : key.offset.toNat + sought.length ≤ record.length <;> simp [inside]

/-! ## Made descriptors -/

def describe (leading sample extra : Bytes) (offset : UInt32) : Bytes :=
  leading ++ sample ++ extra ++ (Tail.ofOffset offset).toBytes

theorem exists_ofBytes_describe {leading sample : Bytes} (number : UInt16) (extra : Bytes)
    (offset : UInt32) (four : leading.length = 4) (short : sample.length ≤ 65535) :
    ∃ key, ofBytes number (UInt16.ofNat sample.length) (describe leading sample extra offset) =
        .ok key ∧
      key.length.toNat = sample.length ∧ key.sampleKey = sample ∧ key.offset = offset ∧
      (key.fieldStart, key.fieldEnd) = (offset.toNat, offset.toNat + sample.length) := by
  have whole : (UInt16.ofNat sample.length).toNat = sample.length := by
    rw [UInt16.toNat_ofNat', Nat.mod_eq_of_lt (Nat.lt_succ_of_le short)]
  have room : 4 + (UInt16.ofNat sample.length).toNat ≤
      (describe leading sample extra offset).length := by
    rw [whole, describe]
    simp only [List.length_append]
    omega
  obtain ⟨key, made⟩ := (exists_ofBytes_iff number).mpr room
  obtain ⟨-, length, data⟩ := ofBytes_eq_ok_iff.mp made
  have length : key.length.toNat = sample.length := by rw [length, whole]
  have begins : key.offset = offset := by
    rw [offset_of_data data, Tail.offset_ofOffset]
  refine ⟨key, made, length, ?_, begins, ?_⟩
  · rw [describe, List.append_assoc, List.append_assoc] at data
    exact sampleKey_of_data four length data
  · rw [fieldEnd, fieldStart, begins, length]

/-- A descriptor is accepted exactly if it has room for its sample key. -/
theorem ofBytes_accepts :
    (∀ number leading sample extra offset, leading.length = 4 → sample.length ≤ 65535 →
      ∃ key, ofBytes number (UInt16.ofNat sample.length) (describe leading sample extra offset) =
          .ok key ∧
        key.length.toNat = sample.length ∧ key.sampleKey = sample ∧ key.offset = offset ∧
        (key.fieldStart, key.fieldEnd) = (offset.toNat, offset.toNat + sample.length)) ∧
    Function.Bijective Tail.offset ∧
    (∀ (tail : Tail) (offset : UInt32),
      tail.offset = offset ↔ tail = .ofNumber (Tail.ofNumber offset).offset) ∧
    (∀ number length data,
      (∃ key, ofBytes number length data = .ok key) ↔ 4 + length.toNat ≤ data.length) ∧
    ∀ number length data key, ofBytes number length data = .ok key →
      (key.number, key.length, key.data) = (number, length, data) ∧
      (∃ (front : Bytes) (tail : Tail), data = front ++ tail.toBytes ∧ key.offset = tail.offset) ∧
      key.sampleKey = (data.drop 4).take length.toNat ∧
      key.offsetInSteps? = some key.offset ∧
      key.sampleKeyInSteps? = some key.sampleKey ∧
      key.fieldInSteps? = some (key.fieldStart, key.fieldEnd) ∧
      ∀ record sought, key.fieldBeginsInSteps? record sought =
          some (key.fieldBegins record sought) ∧
        (key.fieldBegins record sought = true ↔
          sought.length ≤ length.toNat ∧ key.offset.toNat + sought.length ≤ record.length ∧
          (record.drop key.offset.toNat).take sought.length = sought) := by
  refine ⟨?_, Tail.offset_bijective, fun _ _ => Tail.offset_eq_iff,
    fun number _ _ => exists_ofBytes_iff number, ?_⟩
  · intro number leading sample extra offset
    exact exists_ofBytes_describe number extra offset
  · intro number length data key made
    obtain ⟨rfl, rfl, rfl⟩ := ofBytes_eq_ok_iff.mp made
    obtain ⟨tail, ends⟩ := key.exists_tail
    exact ⟨rfl, ⟨_, tail, ends, offset_of_data ends⟩, rfl, key.offsetInSteps?_eq,
      key.sampleKeyInSteps?_eq, key.fieldInSteps?_eq,
      fun record sought => ⟨key.fieldBeginsInSteps?_eq record sought, fieldBegins_iff_slice⟩⟩

theorem ofBytes_accepts_sample :
    describe [1, 2, 3, 4] [65, 66] [9] 65538 = [1, 2, 3, 4, 65, 66, 9, 1, 0, 2, 0] ∧
      (∃ key, ofBytes 3 2 [1, 2, 3, 4, 65, 66, 9, 1, 0, 2, 0] = .ok key ∧
        key.sampleKey = [65, 66] ∧ key.offset = 65538 ∧
        (key.fieldStart, key.fieldEnd) = (65538, 65540)) ∧
      ∃ key, ofBytes 4 2 [0, 0, 0, 0, 2, 0] = .ok key ∧ key.offset = 2 ∧
        key.offsetInSteps? = some 2 ∧ key.sampleKeyInSteps? = some [2, 0] ∧
        key.fieldBegins [65, 66, 67, 68] [67] = true ∧
        key.fieldBegins [65, 66, 67] [67, 68] ≠ true := by
  obtain ⟨made, -, -, accepts, within⟩ := ofBytes_accepts
  obtain ⟨key, accepted, -, sample, offset, field⟩ :=
    made 3 [1, 2, 3, 4] [65, 66] [9] 65538 rfl (by decide)
  obtain ⟨short, overlaps⟩ := (accepts 4 2 [0, 0, 0, 0, 2, 0]).mpr (by decide)
  obtain ⟨-, -, -, steps, cut, -, compares⟩ := within 4 2 _ short overlaps
  obtain rfl : short = ⟨4, 2, [0, 0, 0, 0, 2, 0], by decide⟩ :=
    Except.ok.inj (overlaps.symm.trans rfl)
  refine ⟨rfl, ⟨key, accepted, sample, offset, field⟩, _, overlaps, rfl, steps, cut, ?_, ?_⟩
  · exact (compares [65, 66, 67, 68] [67]).2.mpr (by decide)
  · exact fun begins => absurd ((compares [65, 66, 67] [67, 68]).2.mp begins) (by decide)

end Key

end RecordFile
