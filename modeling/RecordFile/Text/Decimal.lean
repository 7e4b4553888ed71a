/-! # Decimal numbers as people type them

A sign may stand in front. Only a zero may be negative, since every number that is read
here counts something.
-/

namespace RecordFile.Text

def isDigit (c : Char) : Bool := decide (48 ≤ c.toNat) && decide (c.toNat ≤ 57)

def digitsValue (digits : List Char) : Nat :=
  digits.foldl (fun value digit => 10 * value + (digit.toNat - 48)) 0

def readDigits? (text : List Char) : Option Nat :=
  if text ≠ [] ∧ text.all isDigit then some (digitsValue text) else none

/-- A number with a plus sign or no sign. -/
def readCount? (text : String) : Option Nat :=
  match text.toList with
  | '+' :: digits => readDigits? digits
  | digits => readDigits? digits

/-- A number with either sign, as long as it is not below zero. -/
def readSigned? (text : String) : Option Nat :=
  match text.toList with
  | '-' :: digits => (readDigits? digits).filter (· == 0)
  | _ => readCount? text

end RecordFile.Text
