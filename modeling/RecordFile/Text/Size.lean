/-! # Sizes for people

Below a kilobyte a size is its number of bytes. From there on it has one decimal, and a tie goes to
the even one.
-/

namespace RecordFile.Text

/-- The nearest whole number; of two equally near ones, the even one. -/
def roundHalfEven (num den : Nat) : Nat :=
  let quotient := num / den
  let twice := 2 * (num % den)
  if twice < den then quotient
  else if den < twice then quotient + 1
  else quotient + quotient % 2

def oneDecimal (num den : Nat) : String :=
  let tenths := roundHalfEven (10 * num) den
  s!"{tenths / 10}.{tenths % 10}"

def kilobyte : Nat := 1024

def megabyte : Nat := 1024 * 1024

/-- In the largest unit that it reaches. -/
def sizeText (bytes : Nat) : String :=
  if bytes < kilobyte then toString bytes
  else if bytes < megabyte then oneDecimal bytes kilobyte ++ " KB"
  else oneDecimal bytes megabyte ++ " MB"

end RecordFile.Text
