import CardReader.Driver
import CardReader.Osdp.Framer

namespace CardReader.Osdp

/-- What a device tells about itself. -/
structure Identity where
  vendor : UInt8 × UInt8 × UInt8
  model : UInt8
  version : UInt8
  serial : UInt32
  firmware : UInt8 × UInt8 × UInt8
  deriving DecidableEq

def serialNumber (b0 b1 b2 b3 : UInt8) : UInt32 :=
  UInt32.ofNat (((b3.toNat * 256 + b2.toNat) * 256 + b1.toNat) * 256 + b0.toNat)

def Identity.ofPayload (data : Bytes) : Except ReaderError Identity :=
  match data with
  | v0 :: v1 :: v2 :: model :: version :: s0 :: s1 :: s2 :: s3 :: f0 :: f1 :: f2 :: _ =>
    .ok ⟨(v0, v1, v2), model, version, serialNumber s0 s1 s2 s3, (f0, f1, f2)⟩
  | _ => .error (.badResponse (.shortIdentity data.length))

/-- Pause before a busy device is asked again. -/
def busyPause : Nat := 50

/-- How long a device may stay busy. -/
def busyLimit : Nat := 2000

/-- Codec of the device, and what it told about itself. -/
structure Device where
  framer : Framer
  identity : Option Identity := none
  tamper : Bool := false
  deriving DecidableEq

namespace Device

instance : Codec Device where
  family d := Codec.family d.framer
  encode command := Coding.onPart framer (fun f d => { d with framer := f }) (Codec.encode command)
  decode frame := Coding.onPart framer (fun f d => { d with framer := f }) (Codec.decode frame)

/-- Sends a command, at most `tries` times, until the device is not busy or `giveUp` is near. -/
def sendUntil [Link σ] (giveUp : Nat) (command : Bytes) : Nat → Act σ Device Answer
  | 0 => throw (.badState .stayedBusy)
  | tries + 1 => do
    let answer ← Channel.send command
    if answer.status ≠ busyReply then return answer
    let next := (← Act.now) + busyPause
    if giveUp < next then throw (.badState .stayedBusy)
    Act.onWorld (World.passUntil next)
    sendUntil giveUp command tries

/-- Sends a command; a pause follows each try, so there are no more tries than pauses fit. -/
def send [Link σ] (command : Bytes) : Act σ Device Answer := do
  sendUntil ((← Act.now) + busyLimit) command (busyLimit / busyPause + 1)

def identify [Link σ] : Act σ Device Identity := do
  let answer ← send [identifyCommand, 0x00]
  if answer.status ≠ identityReply then throw (.badResponse (.identityReply answer.status))
  Act.ofExcept (Identity.ofPayload answer.data)

/-- Asks what the device is and keeps it. -/
def configure [Link σ] : Act σ Device Unit := do
  let identity ← identify
  Act.onDriver ({ · with identity := some identity })

/-- What the reply to a poll tells. -/
inductive Report where
  | nothing
  | card (identifier : Bytes)
  | tamper (on : Bool)
  deriving DecidableEq

/-- Reads the reply to a poll: card data stand after reader, format and bit count in a raw reply,
after reader, direction and length in a formatted one, and after two bytes in an extended one. -/
def report (reply : Answer) : Except ReaderError Report :=
  let data := reply.data
  if reply.status = ackReply then .ok .nothing
  else if reply.status = rawReply ∧ 4 < data.length then .ok (.card (data.drop 4))
  else if reply.status = formattedReply ∧ 3 < data.length then .ok (.card (data.drop 3))
  else if reply.status = extendedReply then
    .ok (if data[1]? = some 0x01 then .card (data.drop 2) else .nothing)
  else if reply.status = localStatusReply then .ok (.tamper (data.headD 0 != 0))
  else .error (.badResponse (.pollReply reply.status))

def chipInAir [Link σ] : Act σ Device (Option Chip) := do
  match ← Act.ofExcept (report (← send [pollCommand])) with
  | .nothing => return none
  | .card identifier => return some (Chip.generic identifier)
  | .tamper on =>
    Act.onDriver ({ · with tamper := on })
    return none

instance : Driver Device where
  ping _ := [pollCommand]
  pollInterval _ := 100
  configure := configure
  chipInAir := chipInAir

end Device

end CardReader.Osdp
