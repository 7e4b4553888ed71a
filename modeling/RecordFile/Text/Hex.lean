import RecordFile.Bytes
import RecordFile.Text.Blank
import RecordFile.Text.Digits

/-! # Bytes as text

Pairs of hexadecimal digits with one blank between the pairs. The reader takes digits of either case
and skips blanks.
-/

namespace RecordFile.Text

/-! ## Writing -/

def hexPair (b : UInt8) : List Char := [hexDigit (b.toNat / 16), hexDigit (b.toNat % 16)]

def hexPairs : Bytes → List Char
  | [] => []
  | [b] => hexPair b
  | b :: rest => hexPair b ++ ' ' :: hexPairs rest

def hex (bytes : Bytes) : String := String.ofList (hexPairs bytes)

/-- A byte shows as itself in ASCII, or as a dot. -/
def asciiChar (b : UInt8) : Char :=
  if 0x20 ≤ b.toNat ∧ b.toNat ≤ 0x7E then Char.ofNat b.toNat else '.'

def ascii (bytes : Bytes) : String := String.ofList (bytes.map asciiChar)

/-! ## Reading -/

inductive HexFault
  | notAscii
  | oddCount
  | badDigit
  deriving DecidableEq, Repr

def readPair? (high low : Char) : Option UInt8 :=
  -- A plus sign in front of one digit is let through.
  if high = '+' then (hexValue? low).map UInt8.ofNat
  else
    match hexValue? high, hexValue? low with
    | some h, some l => some (UInt8.ofNat (16 * h + l))
    | _, _ => none

def readPairs? : List Char → Option Bytes
  | high :: low :: rest =>
    match readPair? high low, readPairs? rest with
    | some b, some bytes => some (b :: bytes)
    | _, _ => none
  | _ => some []

/-- The characters that count when bytes are read. -/
def significant (text : List Char) : List Char := text.filter (!isBlank ·)

def parseHex (text : String) : Except HexFault Bytes :=
  let digits := significant text.toList
  if digits.any (127 < ·.toNat) then .error .notAscii
  else if digits.length % 2 = 1 then .error .oddCount
  else
    match readPairs? digits with
    | some bytes => .ok bytes
    | none => .error .badDigit

end RecordFile.Text
