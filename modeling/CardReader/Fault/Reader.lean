import CardReader.Family
import CardReader.Fault.Config
import CardReader.Fault.Frame
import CardReader.Fault.Link
import CardReader.Text.Number
import CardReader.Text.Span

namespace CardReader

/-- An operation that the present state does not allow. -/
inductive BadState where
  | noKeyToChange
  | stayedBusy
  | noLink
  | detectionDisabled
  deriving DecidableEq

def BadState.message : BadState → String
  | .noKeyToChange => "no reader key to change"
  | .stayedBusy => "OSDP device stayed busy"
  | .noLink => "reader unit has no transport"
  | .detectionDisabled => "no serial port configured and auto-detection is disabled"

/-- An operation that is not offered. -/
inductive Unsupported where
  | noProvider (family : Family)
  | refused (text : String)
  deriving DecidableEq

def Unsupported.message : Unsupported → String
  | .noProvider family => "no provider for " ++ family.name
  | .refused text => text

/-- An answer whose payload does not say what its command asked for. -/
inductive BadResponse where
  | identifier (digits : String) (cause : Hex.Fault)
  | cardNumber (text : String) (cause : Text.Number.Fault)
  | readerName (text : String)
  | shortIdentity (length : Nat)
  | identityReply (code : UInt8)
  | pollReply (code : UInt8)
  | tamperBehavior (code : UInt8)
  | shortInformation (length : Nat)
  | shortTamper (length : Nat)
  | keyBlockPayload
  | emptyScanA
  | shortScanA (length : Nat)
  | emptyScanB
  | cutIdentifier (length : Nat)
  deriving DecidableEq

def BadResponse.message : BadResponse → String
  | .identifier digits cause => "identifier " ++ Text.Quoted.string digits ++ ": " ++ cause.message
  | .cardNumber text cause => "card number " ++ Text.Quoted.string text ++ ": " ++ cause.message
  | .readerName text =>
    "reader identifier " ++ Text.Quoted.string text ++ " does not start with TMC"
  | .shortIdentity n => "PDID reply is " ++ toString n ++ " bytes, expected 12"
  | .identityReply code => "ID answered with reply " ++ Hex.ofByte code
  | .pollReply code => "unexpected POLL reply " ++ Hex.ofByte code
  | .tamperBehavior code => "unknown tamper switch behavior " ++ Hex.ofByte code
  | .shortInformation n => "reader information is " ++ toString n ++ " bytes, expected 5"
  | .shortTamper n => "tamper switch answer is " ++ toString n ++ " bytes, expected 3"
  | .keyBlockPayload => "unexpected payload while loading the SKB"
  | .emptyScanA => "empty 14443A scan answer"
  | .shortScanA n => "14443A scan answer is " ++ toString n ++ " bytes, expected more than 5"
  | .emptyScanB => "empty 14443B scan answer"
  | .cutIdentifier n => "UID of " ++ toString n ++ " bytes is truncated"

/-- Why an operation on a reader failed. -/
inductive ReaderError where
  | frame (cause : FrameError)
  | link (cause : LinkError)
  | config (cause : ConfigError)
  | timeout (waited : Nat)
  | notConnected
  | portInUse (port : String)
  | noReaderFound
  | badState (cause : BadState)
  | unsupported (cause : Unsupported)
  | badResponse (cause : BadResponse)
  deriving DecidableEq

namespace ReaderError

abbrev session (cause : SessionError) : ReaderError := .frame (.session cause)

def message : ReaderError → String
  | .frame cause => "Core protocol error: " ++ cause.message
  | .link cause => "Transport error: " ++ cause.message
  | .config cause => "Configuration error: " ++ cause.message
  | .timeout waited => "No answer within " ++ Text.span waited
  | .notConnected => "Reader not connected"
  | .portInUse port => "Port " ++ port ++ " is already used by another reader unit"
  | .noReaderFound => "No reader answered on any serial port"
  | .badState cause => "Invalid state: " ++ cause.message
  | .unsupported cause => "Operation not supported: " ++ cause.message
  | .badResponse cause => "Invalid response from reader: " ++ cause.message

def kind : ReaderError → FaultKind
  | .frame cause => cause.kind
  | .link _ => .transport
  | .timeout _ => .timeout
  | .badResponse _ => .framing
  | .config _ | .notConnected | .portInUse _ | .noReaderFound | .badState _ | .unsupported _ =>
    .usage

def isRecoverable : ReaderError → Bool
  | .frame cause => cause.isRecoverable
  | .timeout _ | .badResponse _ => true
  | _ => false

/-- Whether the reader has to be connected anew before it can be used again. -/
def needsReconnect : ReaderError → Bool
  | .link _ | .notConnected => true
  | e => e.kind == .authentication

end ReaderError

end CardReader
