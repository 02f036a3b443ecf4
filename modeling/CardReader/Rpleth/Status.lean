import CardReader.Bytes.Hex

namespace CardReader.Rpleth

/-- What a status other than success means. -/
inductive Status where
  | commandFailure
  | badChecksum
  | timeout
  | badSize
  | badDevice
  deriving DecidableEq

namespace Status

/-- Meaning of a status byte; zero is success and a code without a meaning is a failure. -/
def ofCode? : UInt8 → Option Status
  | 0x00 => none
  | 0x02 => some .badChecksum
  | 0x03 => some .timeout
  | 0x04 => some .badSize
  | 0x05 => some .badDevice
  | _ => some .commandFailure

def code : Status → UInt8
  | .commandFailure => 0x01
  | .badChecksum => 0x02
  | .timeout => 0x03
  | .badSize => 0x04
  | .badDevice => 0x05

def name : Status → String
  | .commandFailure => "CommandFailure"
  | .badChecksum => "BadChecksum"
  | .timeout => "Timeout"
  | .badSize => "BadSize"
  | .badDevice => "BadDevice"

def description : Status → String
  | .commandFailure => "command failure"
  | .badChecksum => "bad checksum in command"
  | .timeout => "timeout"
  | .badSize => "bad size of command"
  | .badDevice => "bad device in command"

def text (s : Status) : String := s.description ++ " (" ++ Hex.ofByte s.code ++ ")"

theorem ofCode?_code (s : Status) : ofCode? s.code = some s := by cases s <;> rfl

end Status

end CardReader.Rpleth
