import CardReader.Chip
import CardReader.Fault.Reader

namespace CardReader.Stid

/-- What a reader tells about itself; its supply voltage is in whole volts and tenths. -/
structure Information where
  version : UInt8
  baudCode : UInt8
  address : UInt8
  volts : UInt8
  tenths : UInt8
  deriving DecidableEq

namespace Information

def ofPayload (data : Bytes) : Except ReaderError Information :=
  match data with
  | version :: baudCode :: address :: volts :: tenths :: _ =>
    .ok ⟨version, baudCode, address, volts, tenths⟩
  | _ => .error (.badResponse (.shortInformation data.length))

/-- Rate of the line, if the code has a meaning. -/
def baud? (i : Information) : Option Baud := Baud.ofCode? i.baudCode

def voltage (i : Information) : Float32 :=
  Float32.ofNat i.volts.toNat + Float32.ofNat i.tenths.toNat / 10

/-- Supply voltage in tenths of a volt; there may be more than nine tenths. -/
def decivolts (i : Information) : Nat := i.volts.toNat * 10 + i.tenths.toNat

/-- All of it, the voltage with one decimal. -/
def text (i : Information) : String :=
  "STid STR v" ++ Hex.ofByte i.version ++ " (baud code " ++ toString i.baudCode.toNat ++
    ", RS485 address " ++ toString i.address.toNat ++ ", " ++ toString (i.decivolts / 10) ++ "." ++
    toString (i.decivolts % 10) ++ " V)"

end Information

/-- What a reader does when its tamper switch opens. -/
inductive TamperBehavior where
  | nothing
  | resetConfig
  | resetKeys
  | resetAll
  deriving DecidableEq

namespace TamperBehavior

def code : TamperBehavior → UInt8
  | .nothing => 0
  | .resetConfig => 1
  | .resetKeys => 2
  | .resetAll => 3

def name : TamperBehavior → String
  | .nothing => "Nothing"
  | .resetConfig => "ResetConfig"
  | .resetKeys => "ResetKeys"
  | .resetAll => "ResetAll"

def ofCode : UInt8 → Except ReaderError TamperBehavior
  | 0 => .ok .nothing
  | 1 => .ok .resetConfig
  | 2 => .ok .resetKeys
  | 3 => .ok .resetAll
  | code => .error (.badResponse (.tamperBehavior code))

theorem ofCode_code (b : TamperBehavior) : ofCode b.code = .ok b := by cases b <;> rfl

end TamperBehavior

/-- State of the tamper switch. -/
structure TamperSwitch where
  enabled : Bool
  behavior : TamperBehavior
  /-- Whether the switch opened since it was last asked about. -/
  changed : Bool
  deriving DecidableEq

def TamperSwitch.ofPayload (data : Bytes) : Except ReaderError TamperSwitch :=
  match data with
  | enabled :: behavior :: changed :: _ => do
    return ⟨enabled == 1, ← TamperBehavior.ofCode behavior, changed == 1⟩
  | _ => .error (.badResponse (.shortTamper data.length))

namespace Scan

/-- Card type that an answer to the ISO 14443A request tells. -/
def cardType (atqa : UInt16) : String :=
  if atqa = 0x0002 then "Mifare4K"
  else if atqa = 0x0004 then "Mifare1K"
  else if atqa = 0x0042 ∨ atqa = 0x0044 then "MifareUltralight"
  else if atqa = 0x0344 then "DESFireEV1"
  else "UNKNOWN"

/-- The card whose identifier is the first `length` bytes of `rest`; no bytes are no card. -/
def card (cardType : String) (length : Nat) (rest : Bytes) : Except ReaderError (Option Chip) :=
  if length = 0 then .ok none
  else if rest.length < length then .error (.badResponse (.cutIdentifier length))
  else .ok (some ⟨cardType, rest.take length⟩)

/-- Reads an ISO 14443A scan: whether there is a card, its answer to the request in two bytes, its
acknowledgement, length of the identifier, identifier. -/
def typeA (data : Bytes) : Except ReaderError (Option Chip) :=
  match data with
  | [] => .error (.badResponse .emptyScanA)
  | found :: rest =>
    if found ≠ 1 then .ok none
    else
      match rest with
      | hi :: lo :: _ :: length :: first :: rest =>
        card (cardType (Bytes.word hi lo)) length.toNat (first :: rest)
      | _ => .error (.badResponse (.shortScanA data.length))

/-- Reads an ISO 14443B scan: whether there is a card, length of the identifier, identifier. -/
def typeB (data : Bytes) : Except ReaderError (Option Chip) :=
  match data with
  | [] => .error (.badResponse .emptyScanB)
  | found :: rest =>
    if found ≠ 1 then .ok none
    else card "UNKNOWN" (rest.headD 0).toNat rest.tail

end Scan

end CardReader.Stid
