import RecordFile.Bytes

/-! # Reading what was written

Every way of changing bytes, said by what stands at each place afterwards.
-/

namespace RecordFile.Bytes

/-! ## Cutting -/

theorem slice?_drop {bytes : Bytes} {start : Nat} (inside : start ≤ bytes.length)
    (offset n : Nat) : slice? (bytes.drop start) offset n = bytes.slice? (start + offset) n := by
  unfold slice?
  rw [List.length_drop, List.drop_drop]
  congr 1
  apply propext
  omega

/-! ## Padding and writing over -/

theorem getElem?_padTo (bytes : Bytes) (n k : Nat) :
    (padTo bytes n)[k]? =
      if k < bytes.length then bytes[k]? else if k < n then some 0 else none := by
  unfold padTo
  rw [List.getElem?_append, List.getElem?_replicate]
  split
  · rfl
  · congr 1
    apply propext
    omega

theorem padTo_of_le {bytes : Bytes} {n : Nat} (long : n ≤ bytes.length) :
    padTo bytes n = bytes := by
  rw [padTo, Nat.sub_eq_zero_of_le long, List.replicate_zero, List.append_nil]

theorem getElem?_overlay {bytes data : Bytes} {offset : Nat}
    (inside : offset + data.length ≤ bytes.length) (k : Nat) :
    (overlay bytes offset data)[k]? =
      if offset ≤ k ∧ k < offset + data.length then data[k - offset]? else bytes[k]? := by
  unfold overlay
  have start : (bytes.take offset).length = offset := by simp; omega
  rw [List.append_assoc, List.getElem?_append, start]
  by_cases before : k < offset
  · rw [if_pos before, List.getElem?_take_of_lt before, if_neg (by omega)]
  · rw [if_neg before, List.getElem?_append]
    by_cases written : k < offset + data.length
    · rw [if_pos (by omega), if_pos (by omega)]
    · rw [if_neg (by omega), if_neg (by omega), List.getElem?_drop]
      congr 1
      omega

theorem drop_overlay {bytes data : Bytes} {offset : Nat} (inside : offset ≤ bytes.length) :
    (overlay bytes offset data).drop offset = data ++ bytes.drop (offset + data.length) := by
  have start : (bytes.take offset).length = offset := List.length_take_of_le inside
  rw [overlay, List.append_assoc, List.drop_left' start]

theorem overlay_nil (bytes : Bytes) (offset : Nat) : overlay bytes offset [] = bytes := by
  simp [overlay]

theorem overlay_padTo (bytes data : Bytes) :
    (bytes.padTo (bytes.length + data.length)).overlay bytes.length data = bytes ++ data := by
  simp [padTo, overlay]

theorem overlay_eq_self {bytes data : Bytes} {offset : Nat}
    (inside : offset + data.length ≤ bytes.length)
    (same : (bytes.drop offset).take data.length = data) :
    overlay bytes offset data = bytes := by
  apply List.ext_getElem?
  intro k
  rw [getElem?_overlay inside]
  split
  · next within =>
    have read : ((bytes.drop offset).take data.length)[k - offset]? = data[k - offset]? := by
      rw [same]
    rw [← read, List.getElem?_take_of_lt (by omega), List.getElem?_drop]
    congr 1
    omega
  · rfl

/-! ## Words -/

theorem getElem?_putWord {bytes : Bytes} {offset : Nat} (w : UInt16)
    (inside : offset + 2 ≤ bytes.length) (k : Nat) :
    (putWord bytes offset w)[k]? =
      if k = offset then some (lowByte w)
      else if k = offset + 1 then some (highByte w)
      else bytes[k]? := by
  unfold putWord
  rw [getElem?_overlay inside]
  have two : (ofWord w).length = 2 := rfl
  rw [two]
  by_cases low : k = offset
  · rw [if_pos (by omega), if_pos low, low, Nat.sub_self]
    rfl
  · by_cases high : k = offset + 1
    · rw [if_pos (by omega), if_neg low, if_pos high, high, Nat.add_sub_cancel_left]
      rfl
    · rw [if_neg (by omega), if_neg low, if_neg high]

theorem getElem?_putWord_ofNat {bytes : Bytes} {offset n : Nat} (fits : n < 65536)
    (inside : offset + 2 ≤ bytes.length) (k : Nat) :
    (putWord bytes offset (UInt16.ofNat n))[k]? =
      if k = offset then some (UInt8.ofNat (n % 256))
      else if k = offset + 1 then some (UInt8.ofNat (n / 256))
      else bytes[k]? := by
  rw [getElem?_putWord _ inside, lowByte, highByte, UInt16.toNat_ofNat', Nat.mod_eq_of_lt fits]

theorem wordAt_eq_of_getElem? {bytes : Bytes} {offset : Nat} (inside : offset + 2 ≤ bytes.length)
    {low high : UInt8} (atLow : bytes[offset]? = some low)
    (atHigh : bytes[offset + 1]? = some high) : wordAt bytes offset inside = word low high := by
  rw [List.getElem?_eq_getElem (by omega), Option.some.injEq] at atLow atHigh
  rw [wordAt, atLow, atHigh]

theorem wordAt_congr {bytes others : Bytes} {offset : Nat} (inside : offset + 2 ≤ bytes.length)
    (insideOthers : offset + 2 ≤ others.length) (low : bytes[offset]? = others[offset]?)
    (high : bytes[offset + 1]? = others[offset + 1]?) :
    wordAt bytes offset inside = wordAt others offset insideOthers := by
  apply wordAt_eq_of_getElem?
  · rw [low, List.getElem?_eq_getElem (by omega)]
  · rw [high, List.getElem?_eq_getElem (by omega)]

@[simp] theorem wordAt_putWord_self {bytes : Bytes} {offset : Nat} (w : UInt16)
    (inside : offset + 2 ≤ (putWord bytes offset w).length)
    (room : offset + 2 ≤ bytes.length) : wordAt (putWord bytes offset w) offset inside = w := by
  have low : (putWord bytes offset w)[offset]? = some (lowByte w) := by
    rw [getElem?_putWord w room, if_pos rfl]
  have high : (putWord bytes offset w)[offset + 1]? = some (highByte w) := by
    rw [getElem?_putWord w room, if_neg (by omega), if_pos rfl]
  rw [wordAt_eq_of_getElem? inside low high, word_bytes]

theorem wordAt_putWord_of_apart {bytes : Bytes} {offset other : Nat} (w : UInt16)
    (room : offset + 2 ≤ bytes.length) (inside : other + 2 ≤ (putWord bytes offset w).length)
    (roomOther : other + 2 ≤ bytes.length) (apart : offset + 2 ≤ other ∨ other + 2 ≤ offset) :
    wordAt (putWord bytes offset w) other inside = wordAt bytes other roomOther := by
  apply wordAt_congr
  · rw [getElem?_putWord w room, if_neg (by omega), if_neg (by omega)]
  · rw [getElem?_putWord w room, if_neg (by omega), if_neg (by omega)]

theorem putWord_wordAt {bytes : Bytes} {offset : Nat} (inside : offset + 2 ≤ bytes.length) :
    putWord bytes offset (wordAt bytes offset inside) = bytes := by
  apply List.ext_getElem?
  intro k
  rw [getElem?_putWord _ inside, wordAt, lowByte_word, highByte_word]
  split
  · next low => rw [low, List.getElem?_eq_getElem (by omega)]
  · split
    · next high => rw [high, List.getElem?_eq_getElem (by omega)]
    · rfl

theorem putWord_putWord {bytes : Bytes} {offset : Nat} (first last : UInt16)
    (inside : offset + 2 ≤ bytes.length) :
    putWord (putWord bytes offset first) offset last = putWord bytes offset last := by
  have insideAfter : offset + 2 ≤ (putWord bytes offset first).length := by
    rw [length_putWord first inside]
    exact inside
  apply List.ext_getElem?
  intro k
  rw [getElem?_putWord last insideAfter, getElem?_putWord last inside,
    getElem?_putWord first inside]
  split
  · rfl
  · split <;> rfl

/-! ## Pieces -/

theorem pieces_eq_map_range (n count : Nat) (bytes : Bytes) :
    pieces n count bytes = (List.range count).map fun i => (bytes.drop (n * i)).take n := by
  induction count generalizing bytes with
  | zero => rfl
  | succ count ih =>
    rw [pieces, ih, List.range_succ_eq_map, List.map_cons, List.map_map]
    congr 1
    apply List.map_congr_left
    intro i _
    simp only [Function.comp_apply, List.drop_drop, Nat.mul_succ, Nat.add_comm]

theorem getElem?_pieces {n count i : Nat} {bytes : Bytes} (enough : n * count ≤ bytes.length)
    (counted : i < count) : (pieces n count bytes)[i]? = bytes.slice? (i * n) n := by
  have inside : i * n + n ≤ bytes.length := by
    have before := Nat.mul_le_mul_left n (Nat.succ_le_of_lt counted)
    rw [Nat.mul_succ, Nat.mul_comm n i] at before
    omega
  rw [pieces_eq_map_range, List.getElem?_map, List.getElem?_range counted, Option.map_some, slice?,
    if_pos inside, Nat.mul_comm]

theorem flatten_pieces (n count : Nat) (bytes : Bytes) :
    (pieces n count bytes).flatten = bytes.take (n * count) := by
  induction count generalizing bytes with
  | zero => simp [pieces]
  | succ count ih =>
    rw [pieces, List.flatten_cons, ih, Nat.mul_succ, Nat.add_comm, List.take_add]

theorem flatten_lines {n : Nat} (positive : 0 < n) (bytes : Bytes) :
    (lines n bytes).flatten = bytes := by
  have enough : bytes.length + (n - 1) < n * ((bytes.length + (n - 1)) / n + 1) :=
    Nat.lt_mul_div_succ _ positive
  rw [Nat.mul_succ] at enough
  rw [lines, flatten_pieces, List.take_of_length_le (by omega)]

/-- All lines are full but the last one, which is not empty. -/
theorem exists_lines_eq {n : Nat} (positive : 0 < n) {bytes : Bytes} (some : bytes ≠ []) :
    ∃ full last, lines n bytes = full ++ [last] ∧ (∀ line ∈ full, line.length = n) ∧
      1 ≤ last.length ∧ last.length ≤ n := by
  have length := List.length_pos_iff.mpr some
  -- The number of lines is rounded up: after `count` full lines comes one more.
  obtain ⟨count, counted⟩ : ∃ count, (bytes.length + (n - 1)) / n = count + 1 :=
    ⟨_, (Nat.succ_pred_eq_of_pos (Nat.div_pos (by omega) positive)).symm⟩
  have upper := Nat.mul_div_le (bytes.length + (n - 1)) n
  have lower : bytes.length + (n - 1) < n * ((bytes.length + (n - 1)) / n + 1) :=
    Nat.lt_mul_div_succ _ positive
  rw [counted] at upper lower
  simp only [Nat.mul_succ] at upper lower
  have split : lines n bytes = (List.range count).map (fun i => (bytes.drop (n * i)).take n) ++
      [(bytes.drop (n * count)).take n] := by
    rw [lines, counted, pieces_eq_map_range, List.range_succ, List.map_append, List.map_singleton]
  refine ⟨_, _, split, ?_, ?_⟩
  · intro line mem
    obtain ⟨i, before, rfl⟩ := List.mem_map.mp mem
    have inside := Nat.mul_le_mul_left n (List.mem_range.mp before)
    rw [Nat.mul_succ] at inside
    simp only [List.length_take, List.length_drop]
    omega
  · simp only [List.length_take, List.length_drop]
    omega

/-- Rows of one length are found again in the bytes that begin with them. -/
theorem pieces_flatten_append {n : Nat} {rows : List Bytes} (rest : Bytes)
    (uniform : ∀ row ∈ rows, row.length = n) :
    pieces n rows.length (rows.flatten ++ rest) = rows := by
  induction rows with
  | nil => rfl
  | cons row rows ih =>
    have whole : row.length = n := uniform row List.mem_cons_self
    rw [List.length_cons, pieces, List.flatten_cons, List.append_assoc,
      List.take_left' whole, List.drop_left' whole,
      ih fun other h => uniform other (List.mem_cons_of_mem _ h)]

theorem length_flatten_of_uniform {n : Nat} {rows : List Bytes}
    (uniform : ∀ row ∈ rows, row.length = n) : rows.flatten.length = n * rows.length := by
  induction rows with
  | nil => rfl
  | cons row rows ih =>
    rw [List.flatten_cons, List.length_append, uniform row List.mem_cons_self,
      ih fun other h => uniform other (List.mem_cons_of_mem _ h), List.length_cons, Nat.mul_succ,
      Nat.add_comm]

end RecordFile.Bytes
