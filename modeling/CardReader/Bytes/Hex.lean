import CardReader.Bytes.Basic
import CardReader.Text.Quoted

namespace CardReader.Hex

/-- Digit of a value below sixteen, letters as `letters` has them. -/
def digit (letters : Char) (n : Nat) : Char :=
  if n < 10 then Char.ofNat (n + 48) else Char.ofNat (n - 10 + letters.toNat)

def pair (letters : Char) (b : UInt8) : List Char :=
  [digit letters (b.toNat / 16), digit letters (b.toNat % 16)]

/-- Lower-case digits, two per byte. -/
def lower (data : Bytes) : String := String.ofList (data.flatMap (pair 'a'))

def upper (data : Bytes) : String := String.ofList (data.flatMap (pair 'A'))

/-- A byte as messages show it. -/
def ofByte (b : UInt8) : String := "0x" ++ upper [b]

def ofWord (w : UInt16) : String := "0x" ++ upper (Bytes.bigEndian w)

/-- Lower-case digits of a number, as few as it takes. -/
def ofNat (n : Nat) : String := String.ofList (Nat.toDigits 16 n)

def value? (b : UInt8) : Option UInt8 :=
  if 48 ≤ b ∧ b ≤ 57 then some (b - 48)
  else if 65 ≤ b ∧ b ≤ 70 then some (b - 55)
  else if 97 ≤ b ∧ b ≤ 102 then some (b - 87)
  else none

/-- Why a text is no hexadecimal form of bytes. -/
inductive Fault where
  | oddLength
  | badDigit (byte : UInt8) (position : Nat)
  deriving DecidableEq

/-- Wording of the fault; a bad byte is shown as the character with its code. -/
def Fault.message : Fault → String
  | .oddLength => "Odd number of digits"
  | .badDigit byte position =>
    "Invalid character " ++ Text.Quoted.char (Char.ofNat byte.toNat) ++ " at position " ++
      toString position

/-- Reads digits two by two; `position` is the place of the first one. It counts the bytes of the
text and not its characters. -/
def decodeFrom (position : Nat) : Bytes → Except Fault Bytes
  | a :: b :: rest =>
    match value? a, value? b with
    | none, _ => .error (.badDigit a position)
    | some _, none => .error (.badDigit b (position + 1))
    | some x, some y =>
      match decodeFrom (position + 2) rest with
      | .ok bytes => .ok ((x * 16 + y) :: bytes)
      | .error e => .error e
  | [_] => .error .oddLength
  | [] => .ok []

/-- The bytes that `text` spells. -/
def decode (text : Bytes) : Except Fault Bytes :=
  if text.length % 2 = 1 then .error .oddLength else decodeFrom 0 text

end CardReader.Hex
