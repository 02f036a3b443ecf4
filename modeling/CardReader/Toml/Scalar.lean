import CardReader.Toml.Text

namespace CardReader.Toml

open Piece

/-- Digits that `ok` accepts, with single underscores between them. -/
def digits (ok : Char → Bool) : Piece (List Char) := do
  let first ← one ok
  return first :: (← many (or (one ok) (do char '_'; one ok)))

/-- Whether there is a minus sign; a plus sign is passed over. -/
def sign : Piece Bool := do
  return (← opt (one fun c => c == '+' || c == '-')) == some '-'

/-- Decimal digits without a needless zero in front. -/
def decimalDigits : Piece (List Char) := do
  if (← peek) = some '0' then return [← one isDigit] else digits isDigit

/-- Integers that fit 64 bits. -/
def inRange (n : Int) : Piece Value :=
  if -0x8000000000000000 ≤ n ∧ n < 0x8000000000000000 then return .integer n else fail

/-- Digits of a base after its mark. -/
def based (mark : String) (base : Nat) (ok : Char → Bool) : Piece Value := do
  word mark
  inRange (number base (← digits ok))

def integer : Piece Value := do
  match (← get).take 2 with
  | ['0', 'x'] => based "0x" 16 isHexDigit
  | ['0', 'o'] => based "0o" 8 fun c => '0' ≤ c && c ≤ '7'
  | ['0', 'b'] => based "0b" 2 fun c => c == '0' || c == '1'
  | _ =>
    let negative ← sign
    let n : Int := number 10 (← decimalDigits)
    inRange (if negative then -n else n)

/-- The number `digits` · 10^`place`, rounded to binary; far outside of the range it is infinite or
zero. -/
def magnitude (digits : List Char) (place : Int) : Float :=
  let n := number 10 digits
  let top : Int := (Nat.toDigits 10 n).length + place
  if n = 0 ∨ top < -400 then 0
  else if 400 < top then Float.ofScientific 1 false 400
  else if 0 ≤ place then Float.ofScientific n false place.toNat
  else Float.ofScientific n true (-place).toNat

/-- Bits of a number with its sign. -/
def signed (negative : Bool) (x : Float) : UInt64 :=
  if negative then x.toBits ||| 0x8000000000000000 else x.toBits

def infinity : UInt64 := 0x7FF0000000000000

def exponent : Piece Int := do
  let _ ← one fun c => c == 'e' || c == 'E'
  let negative ← sign
  let n : Int := number 10 (← digits isDigit)
  return if negative then -n else n

/-- A number with a fraction or an exponent; one that rounds to positive infinity is refused. -/
def fractional : Piece Value := do
  let negative ← sign
  let whole ← decimalDigits
  let (fraction, power) ←
    or (do return ([], ← exponent))
      (do
        char '.'
        let fraction ← digits isDigit
        return (fraction, (← opt exponent).getD 0))
  let bits := signed negative (magnitude (whole ++ fraction) (power - fraction.length))
  if bits = infinity then fail else return .float bits

/-- An infinity or no number. -/
def special : Piece Value := do
  let negative ← sign
  let bits ← or (do word "inf"; return infinity) (do word "nan"; return 0x7FF8000000000000)
  return .float (if negative then bits ||| 0x8000000000000000 else bits)

/-- A number of `n` digits from `least` to `most`. -/
def field (n least most : Nat) : Piece Nat := do
  let digits ← upTo n (one isDigit)
  let value := number 10 digits
  if digits.length = n ∧ least ≤ value ∧ value ≤ most then return value else fail

def monthDays (year month : Nat) : Nat :=
  if month = 2 then
    if year % 4 = 0 ∧ (year % 100 ≠ 0 ∨ year % 400 = 0) then 29 else 28
  else if month = 4 ∨ month = 6 ∨ month = 9 ∨ month = 11 then 30
  else 31

def date : Piece Unit := do
  let year ← field 4 0 9999
  char '-'
  let month ← field 2 1 12
  char '-'
  let _ ← field 2 1 (monthDays year month)

/-- Hour, minute and second, which may be a leap second or have a fraction. -/
def clock : Piece Unit := do
  let _ ← field 2 0 23
  char ':'
  let _ ← field 2 0 59
  char ':'
  let _ ← field 2 0 60
  let _ ← opt (do char '.'; run1 isDigit)

/-- Distance from universal time. -/
def offset : Piece Unit := do
  let utc : Piece Unit := do let _ ← one fun c => c == 'Z' || c == 'z'
  let distance : Piece Unit := do
    let _ ← one fun c => c == '+' || c == '-'
    let _ ← field 2 0 23
    char ':'
    let _ ← field 2 0 59
  or utc distance

/-- A point in time: a date, a time of day, or both with or without an offset. -/
def time : Piece Value := do
  let dated : Piece Unit := do
    date
    let _ ← opt (do
      let _ ← one fun c => c == 'T' || c == 't' || c == ' '
      clock
      opt offset)
  or dated clock
  return .time

def boolean : Piece Value :=
  or (do word "true"; return .boolean true) (do word "false"; return .boolean false)

/-- A value without values in it. -/
def scalar : Piece Value :=
  or text (or boolean (or time (or fractional (or special integer))))

end CardReader.Toml
