import CardReader.Bytes.Hex

namespace CardReader.Stid

/-- Type of a command. -/
inductive CommandType where
  | reader
  | mifareClassic
  | desfire
  | mifarePlus
  | reserved
  | ultralightC
  | rfidChip
  deriving DecidableEq

namespace CommandType

/-- Every type, in the order of the codes. -/
def all : List CommandType :=
  [.reader, .mifareClassic, .desfire, .mifarePlus, .reserved, .ultralightC, .rfidChip]

def code : CommandType → UInt8
  | .reader => 0
  | .mifareClassic => 1
  | .desfire => 2
  | .mifarePlus => 3
  | .reserved => 4
  | .ultralightC => 5
  | .rfidChip => 6

def name : CommandType → String
  | .reader => "Reader"
  | .mifareClassic => "MifareClassic"
  | .desfire => "Desfire"
  | .mifarePlus => "MifarePlus"
  | .reserved => "Reserved"
  | .ultralightC => "UltralightC"
  | .rfidChip => "RfidChip"

/-- The type with a given code. -/
def ofCode? (code : UInt8) : Option CommandType := all.find? fun t => t.code == code

theorem ofCode?_code (t : CommandType) : ofCode? t.code = some t := by cases t <;> decide

end CommandType

/-- What a status other than success means, which depends on the type of the command. -/
inductive Status where
  | authenticationError
  | incorrectData
  | crcError
  | frameLength
  | signatureError
  | timeout
  | incorrectCommandCode
  | incorrectCommandType
  | modeNotAllowed
  | incorrectTag
  | noSkbTag
  | chip (type : CommandType) (code : UInt8)
  | unknown (type : CommandType) (code : UInt8)
  deriving DecidableEq

namespace Status

/-- Statuses of MIFARE Classic commands. -/
def mifareTexts : List (UInt8 × String) :=
  [(0x01, "MIFARE time out error"), (0x02, "More than one tag in the RFID field"),
    (0x03, "Incorrect tag type"), (0x05, "MIFARE frame error"),
    (0x06, "Incorrect settings error"), (0x13, "MIFARE data format error"),
    (0x14, "MIFARE authentication error"), (0x27, "Invalid command error")]

/-- Statuses of DESFire commands. -/
def desfireTexts : List (UInt8 × String) :=
  [(0x01, "More than one tag in the RFID field"), (0x02, "Incorrect tag type"),
    (0x0C, "No change made to backup files"), (0x0E, "Not enough EEPROM memory"),
    (0x1C, "Incorrect command code"), (0x1E, "DESFire integrity error"),
    (0x40, "Key does not exist"), (0x7E, "Incorrect length"), (0x9D, "Permission denied"),
    (0x9E, "Incorrect setting"), (0xA0, "Application not found"),
    (0xA1, "Application integrity error"), (0xAE, "Authentication error"),
    (0xAF, "Frame expected"), (0xBE, "Limit exceeded"), (0xC1, "Card integrity error"),
    (0xCA, "Command aborted"), (0xCD, "Card disabled"),
    (0xCE, "Maximum number of applications reached"), (0xDE, "Duplicate AIDs or files"),
    (0xEE, "EEPROM error"), (0xF0, "File not found"), (0xF1, "File integrity error")]

/-- Text of a status that a card type has a table for. -/
def chipText? (type : CommandType) (code : UInt8) : Option String :=
  match type with
  | .mifareClassic => mifareTexts.lookup code
  | .desfire => desfireTexts.lookup code
  | _ => none

/-- Statuses that hold for the reader itself. -/
def readerStatus? : UInt8 → Option Status
  | 0x01 => some .authenticationError
  | 0x02 => some .incorrectData
  | 0x03 => some .crcError
  | 0x04 => some .frameLength
  | 0x05 => some .signatureError
  | 0x06 => some .timeout
  | 0x07 => some .incorrectCommandCode
  | 0x08 => some .incorrectCommandType
  | 0x11 => some .modeNotAllowed
  | 0xF3 => some .incorrectTag
  | 0xF4 => some .noSkbTag
  | _ => none

/-- Meaning of a status byte; zero is success. -/
def ofCode? (type : CommandType) (code : UInt8) : Option Status :=
  if code = 0 then none
  else
    match type with
    | .mifareClassic | .desfire =>
      some (if (chipText? type code).isSome then .chip type code else .unknown type code)
    | _ => some ((readerStatus? code).getD (.unknown type code))

def code : Status → UInt8
  | .authenticationError => 0x01
  | .incorrectData => 0x02
  | .crcError => 0x03
  | .frameLength => 0x04
  | .signatureError => 0x05
  | .timeout => 0x06
  | .incorrectCommandCode => 0x07
  | .incorrectCommandType => 0x08
  | .modeNotAllowed => 0x11
  | .incorrectTag => 0xF3
  | .noSkbTag => 0xF4
  | .chip _ code | .unknown _ code => code

def name : Status → String
  | .authenticationError => "AuthenticationError"
  | .incorrectData => "IncorrectData"
  | .crcError => "CrcError"
  | .frameLength => "FrameLength"
  | .signatureError => "SignatureError"
  | .timeout => "Timeout"
  | .incorrectCommandCode => "IncorrectCommandCode"
  | .incorrectCommandType => "IncorrectCommandType"
  | .modeNotAllowed => "CommModeNotAllowed"
  | .incorrectTag => "IncorrectTag"
  | .noSkbTag => "NoSkbTag"
  | .chip _ _ => "Chip"
  | .unknown _ _ => "Unknown"

/-- Wording of the reader's manual. -/
def description : Status → String
  | .authenticationError => "Authentication error with reader"
  | .incorrectData => "Incorrect data setting"
  | .crcError => "CRC error on the frame"
  | .frameLength => "Incorrect frame length received"
  | .signatureError => "Signature error at authentication"
  | .timeout => "Time out error"
  | .incorrectCommandCode => "Incorrect command code"
  | .incorrectCommandType => "Incorrect command type"
  | .modeNotAllowed => "Communication mode not allowed with the reader"
  | .incorrectTag => "Incorrect tag"
  | .noSkbTag => "No SKB tag"
  | .chip type code => (chipText? type code).getD "Unknown error"
  | .unknown _ _ => "Unknown error"

def text (s : Status) : String := s.description ++ " (" ++ Hex.ofByte s.code ++ ")"

end Status

end CardReader.Stid
