import CardReader.Driver
import CardReader.Identifier
import CardReader.Promag.Framer

namespace CardReader.Promag

def nameCommand : Bytes := [0x4E]

def cardCommand : Bytes := [0x52]

/-- Codec of the reader, and its name once it was asked. -/
structure Device where
  framer : Framer := {}
  identifier : Option String := none
  deriving DecidableEq

namespace Device

def card (answer : Answer) : Except ReaderError (Option Chip) :=
  if answer.data.isEmpty then .ok none
  else do
    let identifier ← Identifier.ofHex (Text.Utf8.lossy answer.data).toList
    return some (Chip.generic identifier)

instance : Codec Device where
  family d := Codec.family d.framer
  encode command := Coding.onPart framer (fun f d => { d with framer := f }) (Codec.encode command)
  decode frame := Coding.onPart framer (fun f d => { d with framer := f }) (Codec.decode frame)

/-- Asks for the reader's name and keeps it. -/
def configure [Link σ] : Act σ Device Unit := do
  let answer ← Channel.send nameCommand
  Act.onDriver ({ · with identifier := some (Text.Utf8.lossy answer.data) })

def chipInAir [Link σ] : Act σ Device (Option Chip) := do
  Act.ofExcept (card (← Channel.send cardCommand))

instance : Driver Device where
  ping _ := nameCommand
  configure := configure
  chipInAir := chipInAir

end Device

end CardReader.Promag
