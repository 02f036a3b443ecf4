import CardReader.Bytes.Checksum
import CardReader.Frame.Answer

namespace CardReader.Rpleth

/-- The HID reader behind the box. -/
def hidDevice : UInt8 := 0x01

/-- HID command without effect. -/
def hidNop : UInt8 := 0x03

/-- HID command for a badge, also the mark of a badge that the box sends unasked. -/
def hidBadge : UInt8 := 0x04

/-- An opened answer. -/
structure Frame where
  status : UInt8
  device : UInt8
  command : UInt8
  data : Bytes
  deriving DecidableEq

def Frame.isBadge (f : Frame) : Bool := f.device == hidDevice && f.command == hidBadge

/-- Device, command, length, data and the exclusive-or of them; an answer has a status byte in
front. -/
def command (device command : UInt8) (data : Bytes) : Except FrameError Bytes :=
  if 255 < data.length then .error (.payloadTooLarge data.length 255)
  else .ok (device :: command :: UInt8.ofNat data.length :: data)

/-- Opens an answer: length, then checksum, then status. -/
def openFrame (frame : Bytes) : Except FrameError Frame :=
  if frame.length < 5 then .error (.tooShort 5 frame.length)
  else
    let body := frame.dropLast
    let received := frame.getLastD 0
    let expected := Checksum.xor body
    if expected ≠ received then .error (.checksumMismatch expected.toUInt16 received.toUInt16)
    else
      match body with
      | status :: device :: command :: n :: data =>
        if data.length ≠ n.toNat then .error (.lengthMismatch n.toNat data.length)
        else
          match Status.ofCode? status with
          | some s => .error (.status (.rpleth s))
          | none => .ok ⟨status, device, command, data⟩
      | _ => .error (.tooShort 5 frame.length)

/-- Remembers device and command of the last command framed. -/
structure Framer where
  last : Option (UInt8 × UInt8) := none
  deriving DecidableEq

namespace Framer

/-- Frames a command whose length byte is right. -/
def encode (command : Bytes) : Coding Framer Bytes := do
  match command with
  | device :: code :: n :: data =>
    if n.toNat ≠ data.length then throw (.lengthMismatch n.toNat data.length)
    set (⟨some (device, code)⟩ : Framer)
    return command ++ [Checksum.xor command]
  | _ => throw (.tooShort 3 command.length)

/-- Opens an answer to the last command. -/
def decode (frame : Bytes) : Coding Framer Answer := do
  let opened ← Coding.ofExcept (openFrame frame)
  match (← get).last with
  | none => return ⟨opened.data, opened.status⟩
  | some (device, code) =>
    if opened.device ≠ device ∨ opened.command ≠ code then
      throw (.unexpectedAnswer (.device opened.device opened.command device code))
    return ⟨opened.data, opened.status⟩

end Framer

instance : Codec Framer where
  family _ := .rpleth
  encode := Framer.encode
  decode := Framer.decode

end CardReader.Rpleth
