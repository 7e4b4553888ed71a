import RecordFile.Bytes
import RecordFile.Image.Layout
import RecordFile.Store.Fault

/-! # Keys

A raw descriptor has four bytes, then a sample key, and at its end the offset of the key field: 32
bits, low byte first, whose two halves are swapped.
-/

namespace RecordFile

/-! ## Offsets -/

def wordPair (b0 b1 b2 b3 : UInt8) : UInt32 :=
  UInt32.ofNat (b0.toNat + 256 * b1.toNat + 65536 * b2.toNat + 16777216 * b3.toNat)

def swapHalves (n : UInt32) : UInt32 :=
  UInt32.ofNat (n.toNat / 65536 + 65536 * (n.toNat % 65536))

/-- The offset that four bytes at the end of a descriptor stand for. -/
def swappedOffset (b0 b1 b2 b3 : UInt8) : UInt32 := swapHalves (wordPair b0 b1 b2 b3)

theorem toNat_swapHalves (n : UInt32) :
    (swapHalves n).toNat = n.toNat / 65536 + 65536 * (n.toNat % 65536) := by
  have h := n.toNat_lt
  rw [swapHalves, UInt32.toNat_ofNat', Nat.mod_eq_of_lt (by omega)]

@[simp] theorem swapHalves_swapHalves (n : UInt32) : swapHalves (swapHalves n) = n := by
  have h := n.toNat_lt
  apply UInt32.toNat_inj.mp
  rw [toNat_swapHalves, toNat_swapHalves]
  omega

/-! ## Descriptors -/

structure Key where
  number : UInt16
  length : UInt16
  data : Bytes
  room : sampleKeyStart + length.toNat ≤ data.length
  deriving DecidableEq, Repr

namespace Key

/-- There must be room for the sample key. -/
def ofBytes (number length : UInt16) (data : Bytes) : Except StoreError Key :=
  if room : sampleKeyStart + length.toNat ≤ data.length then .ok ⟨number, length, data, room⟩
  else
    .error (.invalidKeyDescriptor number.toNat data.length (sampleKeyStart + length.toNat))

def offset (key : Key) : UInt32 :=
  have tail : offsetTailLength ≤ key.data.length := Nat.le_of_add_right_le key.room
  have at0 : key.data.length - 4 < key.data.length := by simp [offsetTailLength] at tail; omega
  have at1 : key.data.length - 3 < key.data.length := by omega
  have at2 : key.data.length - 2 < key.data.length := by omega
  have at3 : key.data.length - 1 < key.data.length := by omega
  swappedOffset key.data[key.data.length - 4] key.data[key.data.length - 3]
    key.data[key.data.length - 2] key.data[key.data.length - 1]

def sampleKey (key : Key) : Bytes :=
  (key.data.drop sampleKeyStart).take key.length.toNat

def fieldStart (key : Key) : Nat := key.offset.toNat

def fieldEnd (key : Key) : Nat := key.fieldStart + key.length.toNat

/-- The field begins with these bytes and is not shorter than they are. -/
def fieldBegins (key : Key) (record sought : Bytes) : Bool :=
  decide (sought.length ≤ key.length.toNat) &&
    record.slice? key.fieldStart sought.length == some sought

end Key

/-! ## Key sets -/

/-- In the order of their definition. No number is defined twice. -/
structure Keys where
  toList : List Key
  distinct : (toList.map (·.number)).Nodup
  deriving DecidableEq, Repr

namespace Keys

def empty : Keys := ⟨[], List.nodup_nil⟩

def get? (keys : Keys) (number : UInt16) : Option Key :=
  keys.toList.find? (·.number == number)

theorem get?_eq_none_iff {keys : Keys} {number : UInt16} :
    keys.get? number = none ↔ number ∉ keys.toList.map (·.number) := by
  simp [get?]

def insert (keys : Keys) (key : Key) : Except StoreError Keys :=
  if new : keys.get? key.number = none then
    .ok {
      toList := keys.toList ++ [key]
      distinct := by
        rw [List.map_append, List.nodup_append]
        refine ⟨keys.distinct, by simp, ?_⟩
        intro a ha b hb hab
        simp only [List.map_cons, List.map_nil, List.mem_singleton] at hb
        exact get?_eq_none_iff.mp new (hb ▸ hab ▸ ha) }
  else .error (.duplicateKey key.number.toNat)

def size (keys : Keys) : Nat := keys.toList.length

def isEmpty (keys : Keys) : Bool := keys.toList.isEmpty

def numbers (keys : Keys) : List UInt16 := keys.toList.map (·.number)

end Keys

end RecordFile
