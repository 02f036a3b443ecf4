import CardReader.Driver
import CardReader.Prox.Framer

namespace CardReader.Prox

def statusCommand : Bytes := [0x2A, 0x00, 0x00, 0x00]

/-- Sets the kind of cards to look for. -/
def selectCommand : Bytes := [0x20, 0x03, 0x00, 0x00]

def cardCommand : Bytes := [0x21, 0x00, 0x00, 0x00]

def buzzerCommand (on : Bool) : Bytes := [0x2D, if on then 0x10 else 0x00, 0x00, 0x00]

/-- Codec of the reader. -/
structure Device where
  framer : Framer := {}
  deriving DecidableEq

namespace Device

def card (answer : Answer) : Option Chip :=
  if answer.data.isEmpty then none else some ⟨"Prox", answer.data⟩

instance : Codec Device where
  family d := Codec.family d.framer
  encode command := Coding.onPart framer (fun f d => { d with framer := f }) (Codec.encode command)
  decode frame := Coding.onPart framer (fun f d => { d with framer := f }) (Codec.decode frame)

def configure [Link σ] : Act σ Device Unit := do
  let _ ← Channel.send selectCommand

def chipInAir [Link σ] : Act σ Device (Option Chip) := do
  return card (← Channel.send cardCommand)

def setBuzzer [Link σ] (on : Bool) : Act σ Device Unit := do
  let _ ← Channel.send (buzzerCommand on)

instance : Driver Device where
  ping _ := statusCommand
  pollInterval _ := 200
  configure := configure
  chipInAir := chipInAir

end Device

end CardReader.Prox
