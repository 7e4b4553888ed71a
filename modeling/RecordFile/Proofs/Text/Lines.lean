import Mathlib.Tactic.SplitIfs
import RecordFile.Text.Decimal
import RecordFile.Text.Hex
import RecordFile.Text.Quoted

/-! # Printed lines

A text is cut into its lines again where no line is broken. Quoted names, numbers and bytes never
break a line.
-/

namespace RecordFile.Text

/-! ## Cutting a text into lines -/

/-- The lines of a text, each without what ends it. -/
def linesOf : List Char → List (List Char)
  | [] => []
  | c :: rest =>
    if c = '\n' then [] :: linesOf rest
    else
      match linesOf rest with
      | [] => [[c]]
      | line :: others => (c :: line) :: others

def Unbroken (line : List Char) : Prop := '\n' ∉ line

instance (line : List Char) : Decidable (Unbroken line) :=
  inferInstanceAs (Decidable ('\n' ∉ line))

theorem linesOf_append {line : List Char} (unbroken : Unbroken line) (rest : List Char) :
    linesOf (line ++ '\n' :: rest) = line :: linesOf rest := by
  induction line with
  | nil => simp [linesOf]
  | cons c line ih =>
    simp only [Unbroken, List.mem_cons, not_or] at unbroken
    obtain ⟨other, unbroken⟩ := unbroken
    simp [linesOf, Ne.symm other, ih unbroken]

theorem linesOf_ofLines {lines : List String} (unbroken : ∀ line ∈ lines, Unbroken line.toList) :
    linesOf (ofLines lines).toList = lines.map String.toList := by
  induction lines with
  | nil => rfl
  | cons line lines ih =>
    obtain ⟨first, others⟩ := List.forall_mem_cons.mp unbroken
    have split : (ofLines (line :: lines)).toList =
        line.toList ++ '\n' :: (ofLines lines).toList := by
      simp [ofLines, String.toList_join]
    rw [split, linesOf_append first, ih others, List.map_cons]

/-! ## Lines that are not broken -/

@[simp] theorem unbroken_append {line rest : List Char} :
    Unbroken (line ++ rest) ↔ Unbroken line ∧ Unbroken rest := by
  simp [Unbroken]

theorem exists_digitChar_of_mem {b n : Nat} (base : 1 < b) {c : Char} (mem : c ∈ Nat.toDigits b n) :
    ∃ d, c = Nat.digitChar d := by
  induction n using Nat.strongRecOn with
  | ind n ih =>
    rw [Nat.toDigits_eq_if base] at mem
    split at mem
    · exact ⟨n, by simpa using mem⟩
    · next large =>
      rcases List.mem_append.mp mem with above | last
      · exact ih (n / b) (Nat.div_lt_self (by omega) base) above
      · exact ⟨n % b, by simpa using last⟩

theorem unbroken_toDigits {b : Nat} (base : 1 < b) (n : Nat) : Unbroken (Nat.toDigits b n) := by
  intro mem
  obtain ⟨d, same⟩ := exists_digitChar_of_mem base mem
  simp at same

theorem unbroken_escaped (c : Char) : Unbroken (escaped c) := by
  by_cases newline : c = '\n'
  · subst newline
    simp [Unbroken, escaped]
  · have other : '\n' ≠ c := Ne.symm newline
    have digits : '\n' ∉ Nat.toDigits 16 c.toNat := unbroken_toDigits (by decide) c.toNat
    unfold Unbroken escaped
    split_ifs <;> simp [other, digits]

theorem unbroken_quoted (name : String) : Unbroken (quoted name).toList := by
  have each : ∀ c ∈ name.toList, '\n' ∉ escaped c := fun c _ => unbroken_escaped c
  simpa [Unbroken, quoted] using each

theorem asciiChar_ne_newline (b : UInt8) : asciiChar b ≠ '\n' := by
  have solid : ∀ n, n < 127 → 32 ≤ n → Char.ofNat n ≠ '\n' := by decide
  unfold asciiChar
  split_ifs with shows
  · exact solid b.toNat (by omega) (by omega)
  · decide

theorem unbroken_ascii (bytes : Bytes) : Unbroken (ascii bytes).toList := by
  simp [Unbroken, ascii, asciiChar_ne_newline]

theorem unbroken_hexPair (b : UInt8) : Unbroken (hexPair b) := by
  have below := b.toNat_lt
  have solid : ∀ d, d < 16 → '\n' ≠ hexDigit d := by decide
  simp [Unbroken, hexPair, solid (b.toNat / 16) (by omega), solid (b.toNat % 16) (by omega)]

theorem unbroken_hex (bytes : Bytes) : Unbroken (hex bytes).toList := by
  rw [hex, String.toList_ofList]
  induction bytes with
  | nil => simp [hexPairs, Unbroken]
  | cons b rest ih =>
    cases rest with
    | nil => exact unbroken_hexPair b
    | cons next others =>
      have blank : Unbroken (' ' :: hexPairs (next :: others)) := by simpa [Unbroken] using ih
      exact unbroken_append.mpr ⟨unbroken_hexPair b, blank⟩

theorem unbroken_toString (n : Nat) : Unbroken (toString n).toList := by
  rw [Nat.toString_eq_ofList_toDigits, String.toList_ofList]
  exact unbroken_toDigits (by decide) n

/-! ## Numbers -/

theorem isDigit_of_mem_toDigits {n : Nat} {c : Char} (mem : c ∈ Nat.toDigits 10 n) :
    isDigit c = true := by
  have digit := Nat.isDigit_of_mem_toDigits (by decide) (by decide) mem
  simpa [isDigit, Char.isDigit, UInt32.le_iff_toNat_le] using digit

theorem readDigits?_toDigits (n : Nat) : readDigits? (Nat.toDigits 10 n) = some n := by
  have digits : (Nat.toDigits 10 n).all isDigit = true :=
    List.all_eq_true.mpr fun c mem => isDigit_of_mem_toDigits mem
  have value : digitsValue (Nat.toDigits 10 n) = n := Nat.ofDigitChars_ten_toDigits
  simp [readDigits?, Nat.toDigits_ne_nil, digits, value]

end RecordFile.Text
