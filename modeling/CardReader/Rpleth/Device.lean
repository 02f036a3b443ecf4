import CardReader.Config.Basic
import CardReader.Driver
import CardReader.Rpleth.Csn
import CardReader.Rpleth.Framer

namespace CardReader.Rpleth

def nopCommand : Bytes := [hidDevice, hidNop, 0x00]

def badgeCommand : Bytes := [hidDevice, hidBadge, 0x00]

/-- Codec of the box, place of the serial number, and how long one look waits for a badge. -/
structure Device where
  framer : Framer := {}
  options : RplethOptions := {}
  badgeWait : Nat := 250
  deriving DecidableEq

namespace Device

instance : Codec Device where
  family d := Codec.family d.framer
  encode command := Coding.onPart framer (fun f d => { d with framer := f }) (Codec.encode command)
  decode frame := Coding.onPart framer (fun f d => { d with framer := f }) (Codec.decode frame)

/-- Silence in place of a frame is no failure. -/
def orSilence (act : Act σ Device Bytes) : Act σ Device (Option Bytes) := fun b =>
  match act b with
  | .ok frame b => .ok (some frame) b
  | .error (.timeout _) b => .ok none b
  | .error e b => .error e b

/-- Asks for a badge and waits for its frame. -/
def badge [Link σ] (wait : Nat) : Act σ Device (Option Bytes) := do
  Channel.transmit badgeCommand
  match ← orSilence (Channel.receiveFrame .rpleth ((← Act.now) + wait)) with
  | none => return none
  | some frame =>
    let answer ← Act.ofCoding (Codec.decode frame)
    return if answer.data.isEmpty then none else some answer.data

/-- Makes sure that the box answers. -/
def configure [Link σ] : Act σ Device Unit := do
  let _ ← Channel.send nopCommand

/-- Waits for a badge and picks the serial number. -/
def chipInAir [Link σ] : Act σ Device (Option Chip) := do
  match ← badge (← get).driver.badgeWait with
  | none => return none
  | some frame =>
    let options := (← get).driver.options
    return (Csn.extract frame options.csnLength options.csnOffset).map Chip.generic

instance : Driver Device where
  ping _ := nopCommand
  configure := configure
  chipInAir := chipInAir

end Device

end CardReader.Rpleth
