import RecordFile.Text.Hex

/-! # Which texts are bytes

The reader of a pair takes two digits, and also one digit with a plus sign in front. The text is cut
at places counted in bytes of UTF-8.
-/

namespace RecordFile.Text

/-! ## Digits -/

def IsHexDigit (c : Char) : Prop :=
  ('0' ≤ c ∧ c ≤ '9') ∨ ('a' ≤ c ∧ c ≤ 'f') ∨ ('A' ≤ c ∧ c ≤ 'F')

theorem exists_hexValue?_iff {c : Char} : (∃ d, hexValue? c = some d) ↔ IsHexDigit c := by
  simp only [IsHexDigit, Char.le_def, UInt32.le_iff_toNat_le, hexValue?]
  change _ ↔ (48 ≤ c.toNat ∧ c.toNat ≤ 57) ∨ (97 ≤ c.toNat ∧ c.toNat ≤ 102) ∨
    (65 ≤ c.toNat ∧ c.toNat ≤ 70)
  split
  · simp; omega
  · split
    · simp; omega
    · split
      · simp; omega
      · simp; omega

instance (c : Char) : Decidable (IsHexDigit c) :=
  decidable_of_iff _ (Option.isSome_iff_exists.trans exists_hexValue?_iff)

theorem toNat_le_of_isHexDigit {c : Char} (digit : IsHexDigit c) : c.toNat ≤ 127 := by
  obtain ⟨d, value⟩ := exists_hexValue?_iff.mpr digit
  unfold hexValue? at value
  grind

/-! ## Pairs -/

/-- A digit, or a plus sign as the first of a pair. -/
def FitsAt (place : Nat) (c : Char) : Prop := IsHexDigit c ∨ (c = '+' ∧ place % 2 = 0)

def Fits (row : List Char) : Prop := ∀ place c, row[place]? = some c → FitsAt place c

theorem fits_pair_iff {high low : Char} {rest : List Char} :
    Fits (high :: low :: rest) ↔ (FitsAt 0 high ∧ FitsAt 1 low) ∧ Fits rest := by
  constructor
  · intro fits
    refine ⟨⟨fits 0 high rfl, fits 1 low rfl⟩, ?_⟩
    intro place c here
    have later := fits (place + 2) c here
    simpa [FitsAt] using later
  · rintro ⟨⟨first, second⟩, others⟩ place c here
    match place with
    | 0 => cases here; exact first
    | 1 => cases here; exact second
    | place + 2 =>
      have later := others place c here
      simpa [FitsAt] using later

theorem exists_readPair?_iff {high low : Char} :
    (∃ b, readPair? high low = some b) ↔ FitsAt 0 high ∧ FitsAt 1 low := by
  simp only [FitsAt, ← exists_hexValue?_iff, ← Option.isSome_iff_exists]
  unfold readPair?
  by_cases signed : high = '+'
  · simp [signed]
  · cases hexValue? high <;> cases hexValue? low <;> simp [signed]

theorem exists_readPairs?_iff {row : List Char} (even : row.length % 2 = 0) :
    (∃ bytes, readPairs? row = some bytes) ↔ Fits row := by
  fun_induction readPairs? row with
  | case1 high low rest b bytes read readRest ih =>
    have restEven : rest.length % 2 = 0 := by simp at even; omega
    rw [fits_pair_iff, ← exists_readPair?_iff, ← ih restEven]
    simp [read, readRest]
  | case2 high low rest notBoth ih =>
    have restEven : rest.length % 2 = 0 := by simp at even; omega
    rw [fits_pair_iff, ← exists_readPair?_iff, ← ih restEven]
    grind
  | case3 row short =>
    match row with
    | [] => simp [Fits]
    | [_] => simp at even
    | high :: low :: rest => exact absurd rfl (short high low rest)

theorem fits_iff_of_unsigned {row : List Char} (unsigned : ∀ i, row[2 * i]? ≠ some '+') :
    Fits row ↔ ∀ c ∈ row, IsHexDigit c := by
  constructor
  · intro fits c mem
    obtain ⟨place, here⟩ := List.mem_iff_getElem?.mp mem
    rcases fits place c here with digit | ⟨rfl, even⟩
    · exact digit
    · obtain ⟨pair, rfl⟩ : ∃ pair, place = 2 * pair := ⟨place / 2, by omega⟩
      exact absurd here (unsigned pair)
  · intro digits place c here
    exact .inl (digits c (List.mem_of_getElem? here))

theorem toNat_le_of_fits {row : List Char} (fits : Fits row) {c : Char} (mem : c ∈ row) :
    c.toNat ≤ 127 := by
  obtain ⟨place, here⟩ := List.mem_iff_getElem?.mp mem
  rcases fits place c here with digit | ⟨rfl, -⟩
  · exact toNat_le_of_isHexDigit digit
  · decide

theorem exists_parseHex_iff {text : String} :
    (∃ bytes, parseHex text = .ok bytes) ↔
      (significant text.toList).length % 2 = 0 ∧ Fits (significant text.toList) := by
  unfold parseHex
  generalize significant text.toList = row
  dsimp only
  by_cases foreign : row.any (127 < ·.toNat) = true
  · -- Only ASCII characters fit.
    have unfit : ¬Fits row := by
      intro fits
      obtain ⟨c, mem, high⟩ := List.any_eq_true.mp foreign
      have low := toNat_le_of_fits fits mem
      simp at high
      omega
    simp [foreign, unfit]
  · rw [if_neg foreign]
    by_cases odd : row.length % 2 = 1
    · simp [odd]
    · have even : row.length % 2 = 0 := by omega
      rw [if_neg odd, ← exists_readPairs?_iff even]
      cases readPairs? row <;> simp [even]

/-! ## Cutting a text -/

/-- None inside a character, and past the end. -/
def dropBytes? : Nat → List Char → Option (List Char)
  | 0, row => some row
  | _ + 1, [] => none
  | n + 1, c :: row => if c.utf8Size ≤ n + 1 then dropBytes? (n + 1 - c.utf8Size) row else none

def takeBytes? : Nat → List Char → Option (List Char)
  | 0, _ => some []
  | _ + 1, [] => none
  | n + 1, c :: row =>
    if c.utf8Size ≤ n + 1 then (takeBytes? (n + 1 - c.utf8Size) row).map (c :: ·) else none

def sliceBytes? (row : List Char) (start stop : Nat) : Option (List Char) :=
  (dropBytes? start row).bind (takeBytes? (stop - start))

def sizeInBytes : List Char → Nat
  | [] => 0
  | c :: row => c.utf8Size + sizeInBytes row

section Ascii

variable {row : List Char} (narrow : ∀ c ∈ row, c.utf8Size = 1)

include narrow

theorem sizeInBytes_eq : sizeInBytes row = row.length := by
  induction row with
  | nil => rfl
  | cons c row ih =>
    obtain ⟨one, others⟩ := List.forall_mem_cons.mp narrow
    rw [sizeInBytes, one, ih others, List.length_cons, Nat.add_comm]

theorem dropBytes?_eq {n : Nat} (inside : n ≤ row.length) :
    dropBytes? n row = some (row.drop n) := by
  induction row generalizing n with
  | nil => simp_all [dropBytes?]
  | cons c rest ih =>
    obtain ⟨one, others⟩ := List.forall_mem_cons.mp narrow
    cases n with
    | zero => rfl
    | succ n =>
      have shorter : n ≤ rest.length := by simpa using inside
      simp [dropBytes?, one, ih others shorter]

theorem takeBytes?_eq {n : Nat} (inside : n ≤ row.length) :
    takeBytes? n row = some (row.take n) := by
  induction row generalizing n with
  | nil => simp_all [takeBytes?]
  | cons c rest ih =>
    obtain ⟨one, others⟩ := List.forall_mem_cons.mp narrow
    cases n with
    | zero => rfl
    | succ n =>
      have shorter : n ≤ rest.length := by simpa using inside
      simp [takeBytes?, one, ih others shorter]

theorem sliceBytes?_eq {start stop : Nat} (inside : stop ≤ row.length) (ordered : start ≤ stop) :
    sliceBytes? row start stop = some ((row.drop start).take (stop - start)) := by
  unfold sliceBytes?
  rw [dropBytes?_eq narrow (by omega)]
  refine takeBytes?_eq ?_ ?_
  · intro c mem
    exact narrow c (List.mem_of_mem_drop mem)
  · rw [List.length_drop]
    omega

end Ascii

/-! ## Reading in steps -/

def byteOfDigits? (value : Nat) : List Char → Option Nat
  | [] => some value
  | c :: rest => do
    let d ← hexValue? c
    if 16 * value + d < 256 then byteOfDigits? (16 * value + d) rest else none

/-- There may be a plus sign in front, and there must be a digit. -/
def readByte? (text : List Char) : Option UInt8 :=
  let digits := if text.head? = some '+' then text.tail else text
  if digits = [] then none else (byteOfDigits? 0 digits).map UInt8.ofNat

/-- None when a cut must not be made. -/
def readSlices? (row : List Char) (start : Nat) : Nat → Option (Option Bytes)
  | 0 => some (some [])
  | count + 1 => do
    let pair ← sliceBytes? row start (start + 2)
    match readByte? pair with
    | none => some none
    | some b => (readSlices? row (start + 2) count).map (·.map (b :: ·))

def parseHexInSteps? (text : String) : Option (Except HexFault Bytes) :=
  let row := significant text.toList
  if row.any (127 < ·.toNat) then some (.error .notAscii)
  else if sizeInBytes row % 2 ≠ 0 then some (.error .oddCount)
  else
    (readSlices? row 0 (sizeInBytes row / 2)).map fun bytes? =>
      match bytes? with
      | some bytes => .ok bytes
      | none => .error .badDigit

theorem readByte?_pair (high low : Char) : readByte? [high, low] = readPair? high low := by
  unfold readByte? readPair?
  by_cases signed : high = '+'
  · cases value : hexValue? low with
    | none => simp [signed, byteOfDigits?, value]
    | some d =>
      have small := hexValue?_lt value
      have fits : d < 256 := by omega
      simp [signed, byteOfDigits?, value, fits]
  · cases highValue : hexValue? high with
    | none => simp [signed, byteOfDigits?, highValue]
    | some h =>
      cases lowValue : hexValue? low with
      | none => simp [signed, byteOfDigits?, highValue, lowValue]
      | some l =>
        have smallHigh := hexValue?_lt highValue
        have smallLow := hexValue?_lt lowValue
        have fits : h < 256 ∧ 16 * h + l < 256 := by omega
        simp [signed, byteOfDigits?, highValue, lowValue, fits]

theorem readSlices?_eq {row : List Char} (narrow : ∀ c ∈ row, c.utf8Size = 1) {start count : Nat}
    (all : start + 2 * count = row.length) :
    readSlices? row start count = some (readPairs? (row.drop start)) := by
  induction count generalizing start with
  | zero =>
    have none : row.drop start = [] := by simp; omega
    rw [none]
    rfl
  | succ count ih =>
    have pair : row.drop start = row[start] :: row[start + 1] :: row.drop (start + 2) := by
      rw [List.drop_eq_getElem_cons (by omega), List.drop_eq_getElem_cons (by omega)]
    have cut : sliceBytes? row start (start + 2) = some [row[start], row[start + 1]] := by
      rw [sliceBytes?_eq narrow (by omega) (by omega), Nat.add_sub_cancel_left, pair]
      rfl
    rw [readSlices?, cut, ih (by omega), pair, readPairs?]
    simp only [Option.bind_eq_bind, Option.bind_some, readByte?_pair, Option.map_some]
    cases readPair? row[start] row[start + 1] with
    | none => rfl
    | some b => cases readPairs? (row.drop (start + 2)) <;> rfl

/-- No cut is made that must not be. -/
theorem parseHexInSteps?_eq (text : String) : parseHexInSteps? text = some (parseHex text) := by
  unfold parseHexInSteps? parseHex
  generalize significant text.toList = row
  dsimp only
  by_cases foreign : row.any (127 < ·.toNat) = true
  · rw [if_pos foreign, if_pos foreign]
  · have narrow : ∀ c ∈ row, c.utf8Size = 1 := by
      simpa [Char.utf8Size_eq_one_iff, UInt32.le_iff_toNat_le] using foreign
    rw [if_neg foreign, if_neg foreign, sizeInBytes_eq narrow]
    by_cases odd : row.length % 2 = 1
    · rw [if_pos (by omega), if_pos odd]
    · rw [if_neg (by omega), if_neg odd, readSlices?_eq narrow (by omega), List.drop_zero]
      cases readPairs? row <;> rfl

/-! ## What is read -/

/-- Texts are read that are pairs of digits, or of a plus sign and a digit. -/
theorem parseHex_accepts (text : String) :
    let row := significant text.toList
    parseHexInSteps? text = some (parseHex text) ∧
    ((∃ bytes, parseHex text = .ok bytes) ↔ row.length % 2 = 0 ∧ Fits row) ∧
    ((∀ i, row[2 * i]? ≠ some '+') →
      ((∃ bytes, parseHex text = .ok bytes) ↔
        row.length % 2 = 0 ∧ ∀ c ∈ row, IsHexDigit c)) := by
  intro row
  refine ⟨parseHexInSteps?_eq text, exists_parseHex_iff, ?_⟩
  intro unsigned
  rw [exists_parseHex_iff, fits_iff_of_unsigned unsigned]

theorem parseHex_accepts_sample :
    (∀ i, (significant " 4 f\u00a04F".toList)[2 * i]? ≠ some '+') ∧
      (∃ bytes, parseHex " 4 f\u00a04F" = .ok bytes) ∧
      (∀ i, (significant "-1".toList)[2 * i]? ≠ some '+') ∧ ¬∃ bytes, parseHex "-1" = .ok bytes := by
  have unsigned : ∀ row : List Char, '+' ∉ row → ∀ i, row[2 * i]? ≠ some '+' :=
    fun _ free _ here => free (List.mem_of_getElem? here)
  have blanks := unsigned (significant " 4 f\u00a04F".toList) (by decide)
  have minus := unsigned (significant "-1".toList) (by decide)
  have digits : (significant " 4 f\u00a04F".toList).all (IsHexDigit ·) = true := by decide
  have fits := (parseHex_accepts " 4 f\u00a04F").2.2 blanks
  refine ⟨blanks, fits.mpr ⟨by decide, by simpa using digits⟩, minus, ?_⟩
  rw [(parseHex_accepts "-1").2.2 minus]
  rintro ⟨-, others⟩
  exact absurd (others '-' (by decide)) (by decide)

/-- A plus sign is read with the digit behind it. -/
theorem parseHex_signed :
    parseHex "+1" = .ok [1] ∧
      ¬∀ text, (∃ bytes, parseHex text = .ok bytes) ↔ (significant text.toList).length % 2 = 0 ∧
        ∀ c ∈ significant text.toList, IsHexDigit c := by
  have read : parseHex "+1" = .ok [1] := rfl
  refine ⟨read, fun grammar => ?_⟩
  obtain ⟨-, digits⟩ := (grammar "+1").mp ⟨_, read⟩
  have plus : IsHexDigit '+' := digits '+' (by decide)
  revert plus
  decide

end RecordFile.Text
