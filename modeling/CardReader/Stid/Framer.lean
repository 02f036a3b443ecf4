import CardReader.Bytes.Checksum
import CardReader.Bytes.Cursor
import CardReader.Frame.Answer
import CardReader.Frame.Cut
import CardReader.Stid.Secret

namespace CardReader.Stid

/-- Keys of the session. -/
structure Keys where
  hmac : Option Bytes := none
  aes : Option Block := none
  deriving DecidableEq

namespace Keys

def hmacKey (k : Keys) : Except SessionError Bytes :=
  match k.hmac with
  | some key => .ok key
  | none => .error (.missing .hmacKey)

def aesKey (k : Keys) : Except SessionError Block :=
  match k.aes with
  | some key => .ok key
  | none => .error (.missing .aesKey)

def isEmpty (k : Keys) : Bool := k.hmac.isNone && k.aes.isNone

/-- Which keys there are, without their bytes. -/
def redacted (k : Keys) : String :=
  let shown (held : Bool) := if held then "Some(\"<redacted>\")" else "None"
  "SessionKeys \x7b hmac: " ++ shown k.hmac.isSome ++ ", aes: " ++ shown k.aes.isSome ++ " \x7d"

end Keys

/-- Progress of the session. -/
inductive SessionState where
  | unauthenticated
  | handshakeInFlight
  | authenticated
  deriving DecidableEq

def SessionState.name : SessionState → String
  | .unauthenticated => "Unauthenticated"
  | .handshakeInFlight => "HandshakeInFlight"
  | .authenticated => "Authenticated"

/-- Line options, session and the last command of a host. -/
structure Framer where
  type : CommandType := .reader
  wiring : Wiring := .rs232
  address : UInt8 := 0
  mode : Mode := .plain
  keys : Keys := {}
  session : SessionState := .unauthenticated
  chained : Option Block := none
  lastCode : UInt16 := 0
  nonces : Nonces := []
  deriving DecidableEq

def command (code : UInt16) (data : Bytes) : Bytes := Bytes.bigEndian code ++ data

/-- Bytes of a frame around its message. -/
def overhead : Nat := 7

/-- Largest number that a length field holds. -/
def lengthLimit : Nat := 65535

namespace Framer

/-- A failure of the session as a failure of framing. -/
def ofSession : Except SessionError α → Coding Framer α
  | .ok a => pure a
  | .error e => throw (.session e)

/-- Takes a nonce from the source of random blocks. -/
def fresh : Coding Framer Block := fun f =>
  let (nonce, nonces) := drawNonce f.nonces
  ofSession nonce { f with nonces }

/-- Forgets the keys and the chain of initial values. -/
def resetSession (f : Framer) : Framer :=
  { f with keys := {}, chained := none, session := .unauthenticated }

def inMode (mode : Mode) (f : Framer) : Framer := { f with mode }

def control (f : Framer) : UInt8 :=
  match f.wiring with
  | .rs232 => 0
  | .rs485 => (1 : UInt8) ||| (f.address <<< 1)

/-- Message of a command before protection: 00, type, code, AA 55, length, data. -/
def plainMessage (f : Framer) (code : UInt16) (data : Bytes) : Bytes :=
  [0x00, f.type.code] ++ Bytes.bigEndian code ++ [0xAA, 0x55] ++
    Bytes.bigEndian (UInt16.ofNat data.length) ++ data

/-- Enciphers a message and appends its initial value. -/
def cipher (message : Bytes) : Coding Framer Bytes := do
  let initial ←
    match (← get).chained with
    | some block => pure block
    | none => fresh
  let key ← ofSession (← get).keys.aesKey
  let sealed := Cbc.encipher key initial message
  modify fun f => { f with chained := (Cbc.lastBlock? sealed).or f.chained }
  return sealed ++ initial.toList

/-- Appends the signature of a message. -/
def addSignature (message : Bytes) : Coding Framer Bytes := do
  let key ← ofSession (← get).keys.hmacKey
  return message ++ sign key message

/-- Message of a command as `mode` protects it: enciphered with its initial value appended, then
signed. The last cipher block is the initial value of the next command. -/
def protect (mode : Mode) (code : UInt16) (data : Bytes) : Coding Framer Bytes := do
  if lengthLimit < data.length then throw (.payloadTooLarge data.length lengthLimit)
  let plain := (← get).plainMessage code data
  let hidden ← if mode.isCiphered then cipher plain else pure plain
  if mode.isSigned then addSignature hidden else return hidden

/-- Puts a message into a frame: marker, size of the message, control byte, mode byte, message,
two-byte check. -/
def enframe (control : UInt8) (mode : Mode) (message : Bytes) : Bytes :=
  let inner := Bytes.bigEndian (UInt16.ofNat message.length) ++ [control, mode.bits] ++ message
  stx :: inner ++ Bytes.bigEndian (Checksum.crc Checksum.seedStid inner)

def encode (command : Bytes) : Coding Framer Bytes := do
  match command with
  | hi :: lo :: data =>
    let code := Bytes.word hi lo
    let mode := (← get).mode
    modify fun f => { f with lastCode := code }
    let message ← protect mode code data
    if lengthLimit < message.length then throw (.payloadTooLarge message.length lengthLimit)
    return enframe (← get).control mode message
  | _ => throw (.tooShort 2 command.length)

/-- Checks the signature at the end of a message and takes it off. -/
def checkSignature (message : Bytes) : Coding Framer Bytes := do
  if message.length < signatureLength then throw (.tooShort signatureLength message.length)
  let key ← ofSession (← get).keys.hmacKey
  let body := message.take (message.length - signatureLength)
  if ¬ verify key body (message.drop (message.length - signatureLength)) then
    throw .signatureMismatch
  return body

/-- Deciphers a message with the initial value at its end. -/
def decipher (message : Bytes) : Coding Framer Bytes := do
  if message.length < Block.size then throw (.tooShort Block.size message.length)
  let key ← ofSession (← get).keys.aesKey
  let sealed := message.take (message.length - Block.size)
  let initial := message.drop (message.length - Block.size)
  let plain ← ofSession (ofCipher (Cbc.decrypt key.toList initial sealed))
  modify fun f => { f with chained := (Cbc.lastBlock? sealed).or f.chained }
  return plain

/-- Reads an answer to the command `code` of type `type`. -/
def readAnswer (type : CommandType) (code : UInt16) : Cursor.Read Answer := do
  let acknowledged ← Cursor.bigEndian
  if acknowledged ≠ code then throw (.unexpectedAnswer (.acknowledged acknowledged code))
  let length ← Cursor.bigEndian
  let data ← Cursor.take length.toNat
  let answered ← Cursor.byte
  if answered ≠ type.code then throw (.unexpectedAnswer (.statusType answered type.code))
  let status ← Cursor.byte
  match Status.ofCode? type status with
  | some s => throw (.status (.stid s))
  | none => return ⟨data, status⟩

/-- Takes the protection of `mode` off a message and reads the answer in it. -/
def unprotect (mode : Mode) (message : Bytes) : Coding Framer Answer := do
  let body ← if mode.isSigned then checkSignature message else pure message
  let plain ← if mode.isCiphered then decipher body else pure body
  let f ← get
  Coding.ofExcept (Cursor.run (readAnswer f.type f.lastCode) plain)

/-- Checks the frame around a message: bounds, wire, address, mode, then the two-byte check. -/
def deframe (f : Framer) (frame : Bytes) : Except FrameError Bytes := do
  match frame with
  | marker :: hi :: lo :: control :: mode :: rest =>
    if frame.length < overhead then throw (.tooShort overhead frame.length)
    if marker ≠ stx then throw (.badMarker stx marker)
    let size := (Bytes.word hi lo).toNat
    if frame.length < size + overhead then
      throw (.lengthMismatch size (frame.length - overhead))
    let wiring := Wiring.ofControl control
    if wiring ≠ f.wiring then throw (.unexpectedAnswer (.wiring wiring f.wiring))
    let address := (control &&& 0xFE) >>> 1
    if wiring = .rs485 ∧ address ≠ f.address then
      throw (.unexpectedAnswer (.lineAddress address f.address))
    if ¬ f.mode.isReserved ∧ mode ≠ f.mode.bits then
      throw (.unexpectedAnswer (.mode mode f.mode))
    let message := rest.take size
    let expected := Checksum.crc Checksum.seedStid (hi :: lo :: control :: mode :: message)
    let received := Bytes.word (rest.getD size 0) (rest.getD (size + 1) 0)
    if expected ≠ received then throw (.checksumMismatch expected received)
    return message
  | _ => throw (.tooShort overhead frame.length)

def decode (frame : Bytes) : Coding Framer Answer := do
  let f ← get
  let message ← Coding.ofExcept (f.deframe frame)
  unprotect f.mode message

end Framer

instance : Codec Framer where
  family _ := .stidStr
  encode := Framer.encode
  decode := Framer.decode

end CardReader.Stid
