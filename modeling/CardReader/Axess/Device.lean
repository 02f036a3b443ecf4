import CardReader.Axess.Framer
import CardReader.Driver
import CardReader.Identifier

namespace CardReader.Axess

def nameCommand : Bytes := [0x76]

def cardCommand : Bytes := [0x73]

/-- Beginning of every reader's name. -/
def nameStart : Bytes := [0x54, 0x4D, 0x43]

/-- Answer of a reader without a card. -/
def noCard : UInt8 := 0x4E

/-- Codec of the reader, and its name once it was asked. -/
structure Device where
  framer : Framer := {}
  identifier : Option String := none
  deriving DecidableEq

namespace Device

def isName (answer : Answer) : Bool := nameStart.isPrefixOf answer.data

def card (answer : Answer) : Except ReaderError (Option Chip) :=
  match answer.data with
  | [] => .ok none
  | first :: rest =>
    if first = noCard then .ok none
    else do
      let identifier ← Identifier.ofDecimal (Text.Utf8.lossy (first :: rest)).toList
      return some (Chip.generic identifier)

instance : Codec Device where
  family d := Codec.family d.framer
  encode command := Coding.onPart framer (fun f d => { d with framer := f }) (Codec.encode command)
  decode frame := Coding.onPart framer (fun f d => { d with framer := f }) (Codec.decode frame)

/-- Asks for the reader's name and keeps it. -/
def configure [Link σ] : Act σ Device Unit := do
  let answer ← Channel.send nameCommand
  let name := Text.Utf8.lossy answer.data
  if ¬ isName answer then throw (.badResponse (.readerName name))
  Act.onDriver ({ · with identifier := some name })

def chipInAir [Link σ] : Act σ Device (Option Chip) := do
  Act.ofExcept (card (← Channel.send cardCommand))

instance : Driver Device where
  ping _ := nameCommand
  acceptsPing _ := isName
  pollInterval _ := 100
  configure := configure
  chipInAir := chipInAir

end Device

end CardReader.Axess
