import CardReader.Fault.Kind
import CardReader.Fault.Session
import CardReader.Rpleth.Status
import CardReader.Stid.Mode
import CardReader.Stid.Status

namespace CardReader

/-- A status other than success that a device reports. -/
inductive DeviceStatus where
  | rpleth (status : Rpleth.Status)
  | stid (status : Stid.Status)
  | osdpNak (code : UInt8)
  | promag (code : UInt8)
  deriving DecidableEq

def DeviceStatus.message : DeviceStatus → String
  | .rpleth status => "Rpleth status: " ++ status.text
  | .stid status => "STid status: " ++ status.text
  | .osdpNak code => "OSDP NAK: error code " ++ Hex.ofByte code
  | .promag code => "Promag escape status: " ++ Hex.ofByte code

/-- How a sound frame fails to answer the last command. -/
inductive Mismatch where
  | acknowledged (received last : UInt16)
  | statusType (received own : UInt8)
  | wiring (received own : Stid.Wiring)
  | lineAddress (received own : UInt8)
  | mode (received : UInt8) (own : Stid.Mode)
  | replyAddress (received expected : UInt8)
  | sequence (received expected : UInt8)
  | device (device command sentDevice sentCommand : UInt8)
  deriving DecidableEq

def Mismatch.message : Mismatch → String
  | .acknowledged received last =>
    "acknowledged command " ++ Hex.ofWord received ++ ", last command was " ++ Hex.ofWord last
  | .statusType received own =>
    "status type " ++ Hex.ofByte received ++ " does not match adapter type " ++ Hex.ofByte own
  | .wiring received own => "communication type " ++ received.name ++ " does not match " ++ own.name
  | .lineAddress received own =>
    "RS485 address " ++ toString received.toNat ++ " does not match " ++ toString own.toNat
  | .mode received own =>
    "communication mode " ++ Hex.ofByte received ++ " does not match " ++ own.text
  | .replyAddress received expected =>
    "reply address " ++ Hex.ofByte received ++ ", expected " ++ Hex.ofByte expected
  | .sequence received expected =>
    "reply sequence " ++ toString received.toNat ++ ", expected " ++ toString expected.toNat
  | .device dev cmd sentDev sentCmd =>
    "answer is for device " ++ Hex.ofByte dev ++ " command " ++ Hex.ofByte cmd ++
      ", sent device " ++ Hex.ofByte sentDev ++ " command " ++ Hex.ofByte sentCmd

/-- Why a command cannot be framed or a frame not be taken as an answer. -/
inductive FrameError where
  | tooShort (expected actual : Nat)
  | badMarker (expected actual : UInt8)
  | badTerminator (expected actual : UInt8)
  | lengthMismatch (declared actual : Nat)
  | checksumMismatch (expected received : UInt16)
  | signatureMismatch
  | unexpectedAnswer (cause : Mismatch)
  | truncated (buffered : Nat)
  | payloadTooLarge (size max : Nat)
  | status (reported : DeviceStatus)
  | session (cause : SessionError)
  deriving DecidableEq

namespace FrameError

def message : FrameError → String
  | .tooShort expected actual =>
    "Frame too short: expected at least " ++ toString expected ++ " bytes, got " ++
      toString actual ++ " bytes"
  | .badMarker expected actual =>
    "Bad start byte: expected " ++ Hex.ofByte expected ++ ", got " ++ Hex.ofByte actual
  | .badTerminator expected actual =>
    "Bad end byte: expected " ++ Hex.ofByte expected ++ ", got " ++ Hex.ofByte actual
  | .lengthMismatch declared actual =>
    "Length mismatch: header declares " ++ toString declared ++ " bytes, frame holds " ++
      toString actual ++ " bytes"
  | .checksumMismatch expected received =>
    "Checksum mismatch: expected " ++ Hex.ofWord expected ++ ", received " ++ Hex.ofWord received
  | .signatureMismatch => "Signature mismatch"
  | .unexpectedAnswer cause => "Unexpected answer: " ++ cause.message
  | .truncated buffered =>
    "Truncated frame: " ++ toString buffered ++ " bytes buffered when the deadline elapsed"
  | .payloadTooLarge size max =>
    "Payload too large: " ++ toString size ++ " bytes (max: " ++ toString max ++ " bytes)"
  | .status reported => reported.message
  | .session cause => "Authentication error: " ++ cause.message

def kind : FrameError → FaultKind
  | .status _ => .protocolStatus
  | .session _ => .authentication
  | .payloadTooLarge _ _ => .usage
  | _ => .framing

/-- Whether the same command may succeed when it is sent again. -/
def isRecoverable : FrameError → Bool
  | .truncated _ | .checksumMismatch _ _ | .status _ => true
  | _ => false

end FrameError

end CardReader
