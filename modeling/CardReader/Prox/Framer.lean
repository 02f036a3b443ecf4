import CardReader.Bytes.Checksum
import CardReader.Frame.Answer
import CardReader.Frame.Cut

namespace CardReader.Prox

/-- Codec without state. -/
structure Framer where
  deriving DecidableEq

/-- Frames a command whose length byte is right. -/
def seal? (command : Bytes) : Except FrameError Bytes :=
  match command with
  | _ :: _ :: _ :: n :: data =>
    if n.toNat ≠ data.length then .error (.lengthMismatch n.toNat data.length)
    else .ok (stx :: command ++ [Checksum.xor command, etx])
  | _ => .error (.tooShort 4 command.length)

/-- Opens an answer, which has the form of a command: marker, command, two parameters, length, data,
the exclusive-or of all but the marker, end byte. Its status is the command it repeats. -/
def openFrame (frame : Bytes) : Except FrameError Answer :=
  if frame.length < 7 then .error (.tooShort 7 frame.length)
  else if frame.headD 0 ≠ stx then .error (.badMarker stx (frame.headD 0))
  else if frame.getLastD 0 ≠ etx then .error (.badTerminator etx (frame.getLastD 0))
  else
    let inner := (frame.drop 1).dropLast
    let payload := inner.dropLast
    let received := inner.getLastD 0
    let expected := Checksum.xor payload
    if expected ≠ received then .error (.checksumMismatch expected.toUInt16 received.toUInt16)
    else
      match payload with
      | command :: _ :: _ :: n :: data =>
        if n.toNat ≠ data.length then .error (.lengthMismatch n.toNat data.length)
        else .ok ⟨data, command⟩
      | _ => .error (.tooShort 7 frame.length)

instance : Codec Framer where
  family _ := .stidPrg
  encode command := Coding.ofExcept (seal? command)
  decode frame := Coding.ofExcept (openFrame frame)

end CardReader.Prox
