import CardReader.Text.Blank

namespace CardReader.Stid

/-- Protection of messages as the bits of the mode byte. -/
structure Mode where
  bits : UInt8
  deriving DecidableEq

namespace Mode

def plain : Mode := ⟨0⟩

/-- Every message carries a signature. -/
def signed : Mode := ⟨1⟩

/-- Every message is enciphered. -/
def ciphered : Mode := ⟨2⟩

/-- Mode of the handshakes, which cannot be configured. -/
def reserved : Mode := ⟨4⟩

/-- The protections of both modes. -/
def union (a b : Mode) : Mode := ⟨a.bits ||| b.bits⟩

def isSigned (m : Mode) : Bool := m.bits &&& 1 == 1

def isCiphered (m : Mode) : Bool := m.bits &&& 2 == 2

def isReserved (m : Mode) : Bool := m.bits &&& 4 == 4

def text (m : Mode) : String :=
  if m.isReserved then "reserved"
  else
    match m.isSigned, m.isCiphered with
    | false, false => "plain"
    | true, false => "signed"
    | false, true => "ciphered"
    | true, true => "signed+ciphered"

/-- Whether a character stands between the names in a mode text. -/
def isSeparator (c : Char) : Bool := c == '+' || c == '|' || c == ','

/-- The protection with a given name, in small letters. -/
def ofName? (name : String) : Option Mode :=
  if name = "" ∨ name = "plain" then some plain
  else if name = "signed" ∨ name = "hmac" then some signed
  else if name = "ciphered" ∨ name = "aes" then some ciphered
  else none

/-- The protection that one piece of a mode text names. -/
def ofPiece? (piece : List Char) : Option Mode :=
  ofName? (String.ofList (Text.lowered (Text.trim piece)))

/-- Union of the protections that the pieces name, if each names one. -/
def ofPieces? : List (List Char) → Option Mode
  | [] => some plain
  | piece :: rest =>
    match ofPiece? piece, ofPieces? rest with
    | some a, some b => some (a.union b)
    | _, _ => none

def parse? (text : String) : Option Mode := ofPieces? (Text.pieces isSeparator text.toList)

end Mode

/-- Kind of wire. -/
inductive Wiring where
  | rs232
  | rs485
  deriving DecidableEq

namespace Wiring

/-- The wire that the lowest bit of a control byte tells. -/
def ofControl (control : UInt8) : Wiring := if control &&& 1 == 1 then .rs485 else .rs232

def name : Wiring → String
  | .rs232 => "Rs232"
  | .rs485 => "Rs485"

def word : Wiring → String
  | .rs232 => "rs232"
  | .rs485 => "rs485"

def ofWord? (word : String) : Option Wiring :=
  if word = "rs232" then some .rs232 else if word = "rs485" then some .rs485 else none

end Wiring

/-- Line rates that a reader can be set to. -/
inductive Baud where
  | b9600
  | b19200
  | b38400
  | b57600
  | b115200
  deriving DecidableEq

namespace Baud

/-- Every rate, in the order of the codes. -/
def all : List Baud := [.b9600, .b19200, .b38400, .b57600, .b115200]

def code : Baud → UInt8
  | .b9600 => 0
  | .b19200 => 1
  | .b38400 => 2
  | .b57600 => 3
  | .b115200 => 4

def rate : Baud → UInt32
  | .b9600 => 9600
  | .b19200 => 19200
  | .b38400 => 38400
  | .b57600 => 57600
  | .b115200 => 115200

def ofCode? (code : UInt8) : Option Baud := all.find? fun b => b.code == code

def ofRate? (rate : UInt32) : Option Baud := all.find? fun b => b.rate == rate

theorem ofCode?_code (b : Baud) : ofCode? b.code = some b := by cases b <;> decide

theorem ofRate?_rate (b : Baud) : ofRate? b.rate = some b := by cases b <;> decide

end Baud

end CardReader.Stid
