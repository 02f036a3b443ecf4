import CardReader.Bytes.Hex

namespace CardReader

/-- A user key of a STid STR reader. -/
inductive KeyName where
  | hmac
  | aes
  deriving DecidableEq

namespace KeyName

def text : KeyName → String
  | .hmac => "hmac"
  | .aes => "aes"

def length : KeyName → Nat
  | .hmac => 10
  | .aes => 16

end KeyName

/-- Why a text spells no key of the length that is expected. -/
inductive KeyFault where
  | text (cause : Hex.Fault)
  | length (expected actual : Nat)
  deriving DecidableEq

/-- A value outside of its range, or two values that do not go together. -/
inductive Invalid where
  | noHost
  | zeroPort
  | rplethOnSerial
  | zeroBaud
  | configuredAddress (address : UInt8)
  | reservedMode
  | osdpAddress (address : UInt8)
  | csnTooWide
  | lineAddress (address : UInt8)
  deriving DecidableEq

def Invalid.message : Invalid → String
  | .noHost => "tcp endpoint needs a host"
  | .zeroPort => "tcp port must be non-zero"
  | .rplethOnSerial => "rpleth readers are reached over tcp"
  | .zeroBaud => "baud_rate must be non-zero"
  | .configuredAddress a => "rs485_address must be between 0 and 127, got " ++ toString a.toNat
  | .reservedMode => "the reserved communication mode cannot be configured"
  | .osdpAddress a => "osdp address must be between 0 and 126, got " ++ toString a.toNat
  | .csnTooWide => "rpleth csn_length + csn_offset must fit in 64 bits"
  | .lineAddress a => "RS485 address must be between 0 and 127, got " ++ toString a.toNat

/-- Why a configuration value is refused. -/
inductive ConfigError where
  | invalid (cause : Invalid)
  | keyText (key : KeyName) (cause : Hex.Fault)
  | unknownMode (text : String)
  | keyLength (key : KeyName) (actual : Nat)
  | unsupportedBaud (rate : UInt32)
  deriving DecidableEq

/-- A fault of the key with a given name. -/
def KeyFault.of (key : KeyName) : KeyFault → ConfigError
  | .text cause => .keyText key cause
  | .length _ actual => .keyLength key actual

def ConfigError.message : ConfigError → String
  | .invalid cause => "Validation error: " ++ cause.message
  | .keyText key cause => "Parse error: " ++ key.text ++ " key: " ++ cause.message
  | .unknownMode text =>
    "Unknown communication mode: " ++ Text.Quoted.string text ++
      " (expected plain, signed, ciphered or signed+ciphered)"
  | .keyLength key actual =>
    "Invalid " ++ key.text ++ " key: expected " ++ toString key.length ++ " bytes, got " ++
      toString actual ++ " bytes"
  | .unsupportedBaud rate => "Unsupported baud rate: " ++ toString rate.toNat

end CardReader
