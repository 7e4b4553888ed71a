import RecordFile.Text.Digits

/-! # JSON objects over several lines

One member a line, two blanks in front of each, in the order given.
-/

namespace RecordFile.Text

inductive JsonValue
  | text (value : String)
  | number (value : Nat)
  deriving DecidableEq, Repr

/-- Only quotes, backslashes and controls are escaped. -/
def jsonEscaped (c : Char) : List Char :=
  if c = '"' then ['\\', '"']
  else if c = '\\' then ['\\', '\\']
  else if c = '\n' then ['\\', 'n']
  else if c = '\r' then ['\\', 'r']
  else if c = '\t' then ['\\', 't']
  else if c.toNat = 8 then ['\\', 'b']
  else if c.toNat = 12 then ['\\', 'f']
  else if c.toNat < 0x10 then ['\\', 'u', '0', '0', '0'] ++ Nat.toDigits 16 c.toNat
  else if c.toNat < 0x20 then ['\\', 'u', '0', '0'] ++ Nat.toDigits 16 c.toNat
  else [c]

def jsonText (text : String) : String :=
  String.ofList ('"' :: text.toList.flatMap jsonEscaped ++ ['"'])

def JsonValue.render : JsonValue → String
  | .text value => jsonText value
  | .number value => toString value

def jsonObject (members : List (String × JsonValue)) : String :=
  let rows := members.map fun member => "  " ++ jsonText member.1 ++ ": " ++ member.2.render
  "\x7b\n" ++ ",\n".intercalate rows ++ "\n\x7d"

end RecordFile.Text
