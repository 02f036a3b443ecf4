import CardReader.Config.Key
import CardReader.Driver
import CardReader.Stid.Framer
import CardReader.Stid.Handshake
import CardReader.Stid.ModeCell
import CardReader.Stid.Report

namespace CardReader.Stid

def authenticateCode : UInt16 := 0x0001
def keysCode : UInt16 := 0x0003
def baudCode : UInt16 := 0x0005
def addressCode : UInt16 := 0x0006
def informationCode : UInt16 := 0x0008
def scanBCode : UInt16 := 0x0009
def allowedModesCode : UInt16 := 0x000A
def setTamperCode : UInt16 := 0x000B
def tamperCode : UInt16 := 0x000C
def resetCode : UInt16 := 0x000D
def loadKeysCode : UInt16 := 0x000E
def scanACode : UInt16 := 0x000F

/-- Codec of the reader, the mode to work in, and the user keys; an empty key stands for the
factory key. -/
structure Device where
  framer : Framer
  configured : Mode
  hmacKey : Bytes
  aesKey : Bytes
  deriving DecidableEq

namespace Device

/-- A reader with the given options, before any session. -/
def ofOptions (o : StidOptions) : Except ConfigError Device := do
  let framer : Framer := { wiring := o.wiring, address := o.address, mode := o.mode }
  return ⟨framer, o.mode, ← o.hmacKeyBytes, ← o.aesKeyBytes⟩

instance : Codec Device where
  family d := Codec.family d.framer
  encode command := Coding.onPart framer (fun f d => { d with framer := f }) (Codec.encode command)
  decode frame := Coding.onPart framer (fun f d => { d with framer := f }) (Codec.decode frame)

def onFramer (f : Framer → Framer) : Act σ Device Unit :=
  Act.onDriver fun d => { d with framer := f d.framer }

def resetSession : Act σ Device Unit := onFramer Framer.resetSession

/-- Notes the progress of the session. -/
def setSession (session : SessionState) : Act σ Device Unit := onFramer ({ · with session })

def ofSession : Except SessionError α → Act σ Device α
  | .ok a => pure a
  | .error e => throw (.session e)

def drawNonce : Act σ Device Block :=
  Act.ofCoding (Coding.onPart framer (fun f d => { d with framer := f }) Framer.fresh)

def inMode (mode : Mode) (d : Device) : Device := { d with framer := d.framer.inMode mode }

/-- Runs `act` in another mode; afterwards the mode is what it was before, however `act` ends. -/
def under (mode : Mode) (act : Act σ Device α) : Act σ Device α := fun b =>
  let cell := (ModeCell.mk b.driver.framer.mode []).override mode
  let drop (b : Bench σ Device) : Bench σ Device :=
    { b with driver := b.driver.inMode ({ cell with mode := b.driver.framer.mode }.drop 0).mode }
  Act.andAlways act drop { b with driver := b.driver.inMode cell.mode }

theorem under_eq (mode : Mode) (act : Act σ Device α) (b : Bench σ Device) :
    under mode act b =
      Act.andAlways act (fun t => { t with driver := t.driver.inMode b.driver.framer.mode })
        { b with driver := b.driver.inMode mode } := rfl

/-- Runs `act`; a failure drops the session. -/
def orReset (act : Act σ Device α) : Act σ Device α := fun b =>
  match act b with
  | .ok a b => .ok a b
  | .error e b =>
    .error e { b with driver := { b.driver with framer := b.driver.framer.resetSession } }

def send [Link σ] (code : UInt16) (data : Bytes) : Act σ Device Answer :=
  Channel.send (command code data)

/-- Sends a message of a handshake; silence fails the handshake. -/
def handshakeStep [Link σ] (message : Bytes) : Act σ Device Answer := fun b =>
  match send authenticateCode message b with
  | .error (.timeout _) b => .error (.session .handshakeTimeout) b
  | out => out

/-- The exchange of the signed-mode handshake. -/
def hmacExchange [Link σ] (handshake : HmacHandshake) : Act σ Device Bytes := do
  let challenge ← handshakeStep hmacRequest
  let (request, handshake) := handshake.respond challenge.data
  let reply ← handshakeStep request
  ofSession (handshake.finish reply.data)

/-- The exchange of the ciphered-mode handshake. -/
def aesExchange [Link σ] (handshake : AesHandshake) : Act σ Device Block := do
  let challenge ← handshakeStep aesRequest
  let (request, handshake) ← ofSession (handshake.respond challenge.data)
  let reply ← handshakeStep request
  ofSession (handshake.finish reply.data)

/-- Runs the signed-mode handshake and keeps the key of signatures. -/
def authenticateHmac [Link σ] : Act σ Device Unit := do
  let nonce ← drawNonce
  setSession .handshakeInFlight
  let handshake := HmacHandshake.start (← get).driver.hmacKey nonce
  let key ← orReset (under .reserved (hmacExchange handshake))
  onFramer fun f => { f with keys := { f.keys with hmac := some key } }

/-- Runs the ciphered-mode handshake and keeps the key of the cipher. -/
def authenticateAes [Link σ] : Act σ Device Unit := do
  let nonce ← drawNonce
  setSession .handshakeInFlight
  let handshake := AesHandshake.start (← get).driver.aesKey nonce
  let key ← orReset (under .reserved (aesExchange handshake))
  onFramer fun f => { f with keys := { f.keys with aes := some key } }

/-- Asks the reader to drop the session, and drops it here whatever the answer is. -/
def resetAuthenticate [Link σ] : Act σ Device Unit := fun b =>
  match send resetCode [] b with
  | .ok _ b => resetSession b
  | .error e b =>
    .error e { b with driver := { b.driver with framer := b.driver.framer.resetSession } }

def information [Link σ] : Act σ Device Information := do
  Act.ofExcept (Information.ofPayload (← send informationCode []).data)

/-- Replaces user keys of the reader; a key that is not given stays. -/
def changeKeys [Link σ] (hmacKey : Option Bytes) (aesKey : Option Block) : Act σ Device Unit := do
  if hmacKey.isNone ∧ aesKey.isNone then throw (.badState .noKeyToChange)
  let which : UInt8 := (if hmacKey.isSome then 1 else 0) ||| (if aesKey.isSome then 2 else 0)
  let _ ← send keysCode (which :: hmacKey.getD [] ++ (aesKey.map Block.toList).getD [])

def setBaud [Link σ] (baud : Baud) : Act σ Device Unit := do
  let _ ← send Stid.baudCode [baud.code]

/-- Sets the address on the line, which has seven bits. -/
def setAddress [Link σ] (address : UInt8) : Act σ Device Unit := do
  if 127 < address then throw (.config (.invalid (.lineAddress address)))
  let _ ← send addressCode [address]

def setAllowedModes [Link σ] (plain signed ciphered : Bool) : Act σ Device Unit := do
  let bit (on : Bool) (value : UInt8) : UInt8 := if on then value else 0
  let _ ← send allowedModesCode [8 ||| bit plain 1 ||| bit signed 2 ||| bit ciphered 4]

def setTamperSwitch [Link σ] (enabled : Bool) (behavior : TamperBehavior) : Act σ Device Unit := do
  let _ ← send setTamperCode [if enabled then 1 else 0, behavior.code]

def tamperSwitch [Link σ] : Act σ Device TamperSwitch := do
  Act.ofExcept (TamperSwitch.ofPayload (← send tamperCode []).data)

def loadKeys [Link σ] : Act σ Device Unit := do
  let answer ← send loadKeysCode []
  if ¬ answer.data.isEmpty then throw (.badResponse .keyBlockPayload)

def scanA [Link σ] : Act σ Device (Option Chip) := do
  Act.ofExcept (Scan.typeA (← send scanACode [0x00]).data)

def scanB [Link σ] : Act σ Device (Option Chip) := do
  Act.ofExcept (Scan.typeB (← send scanBCode []).data)

/-- Asks for the facts about the reader. -/
def ping : Bytes := command informationCode []

/-- Whether an answer can hold the facts about a reader. -/
def acceptsPing (answer : Answer) : Bool := decide (5 ≤ answer.data.length)

/-- Pings in plain mode; a reader that refuses that mode with a status is found, too. -/
def probe [Link σ] : Act σ Device Bool :=
  under .plain fun b =>
    match Channel.send ping b with
    | .ok answer b => .ok (acceptsPing answer) b
    | .error (.frame (.status (.stid _))) b => .ok true b
    | .error e b => .error e b

/-- Sets up the session that the configured mode needs. -/
def configure [Link σ] : Act σ Device Unit := do
  let mode := (← get).driver.configured
  resetSession
  onFramer ({ · with mode })
  if mode.isSigned then authenticateHmac
  if mode.isCiphered then authenticateAes
  if mode.isSigned ∨ mode.isCiphered then setSession .authenticated

/-- Looks for a card of either kind. -/
def chipInAir [Link σ] : Act σ Device (Option Chip) := do
  match ← scanA with
  | some chip => return some chip
  | none => scanB

def release [Link σ] : Act σ Device Unit := do
  if (← get).driver.framer.session = .authenticated then resetAuthenticate else resetSession

instance : Driver Device where
  ping _ := ping
  acceptsPing _ := acceptsPing
  isAuthenticated d := d.framer.session == .authenticated
  probe := probe
  configure := configure
  chipInAir := chipInAir
  release := release

end Device

end CardReader.Stid
