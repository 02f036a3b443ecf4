namespace CardReader.Text.Number

/-- Why a text is no such number. -/
inductive Fault where
  | empty
  | invalidDigit
  | tooLarge
  deriving DecidableEq

def Fault.message : Fault → String
  | .empty => "cannot parse integer from empty string"
  | .invalidDigit => "invalid digit found in string"
  | .tooLarge => "number too large to fit in target type"

/-- Reads digits onto `value`; the first fault from the left counts. -/
def digits (value : Nat) : List Char → Except Fault Nat
  | [] => .ok value
  | c :: rest =>
    if ¬ c.isDigit then .error .invalidDigit
    else
      let next := value * 10 + (c.toNat - 48)
      if next < 0x10000000000000000 then digits next rest else .error .tooLarge

/-- Reads a number below 2^64, which may carry a plus sign. -/
def parse : List Char → Except Fault Nat
  | [] => .error .empty
  | ['+'] => .error .invalidDigit
  | '+' :: rest => digits 0 rest
  | text => digits 0 text

end CardReader.Text.Number
