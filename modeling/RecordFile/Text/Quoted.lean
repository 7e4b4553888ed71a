import RecordFile.Text.Digits
import RecordFile.Text.Printable

/-! # Quoted names

What does not show, and what would end the quote or look like an escape, is escaped; a single quote
is not.
-/

namespace RecordFile.Text

def escaped (c : Char) : List Char :=
  if c = '"' then ['\\', '"']
  else if c = '\\' then ['\\', '\\']
  else if c = '\n' then ['\\', 'n']
  else if c = '\r' then ['\\', 'r']
  else if c = '\t' then ['\\', 't']
  else if c.toNat = 0 then ['\\', '0']
  else if isPrintable c then [c]
  else '\\' :: 'u' :: Char.ofNat 0x7B :: Nat.toDigits 16 c.toNat ++ [Char.ofNat 0x7D]

def quoted (name : String) : String :=
  String.ofList ('"' :: name.toList.flatMap escaped ++ ['"'])

end RecordFile.Text
