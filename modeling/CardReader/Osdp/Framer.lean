import CardReader.Bytes.Checksum
import CardReader.Bytes.Cursor
import CardReader.Frame.Answer
import CardReader.Frame.Cut

namespace CardReader.Osdp

/-- Control bit of a two-byte trailer. -/
def crcBit : UInt8 := 0x04

/-- Control bit of a security block. -/
def blockBit : UInt8 := 0x08

/-- Address bit of a reply. -/
def replyBit : UInt8 := 0x80

def pollCommand : UInt8 := 0x60
def identifyCommand : UInt8 := 0x61

def ackReply : UInt8 := 0x40
def nakReply : UInt8 := 0x41
def identityReply : UInt8 := 0x45
def localStatusReply : UInt8 := 0x48
def rawReply : UInt8 := 0x50
def formattedReply : UInt8 := 0x51
def busyReply : UInt8 := 0x79
def extendedReply : UInt8 := 0xB1

/-- An opened reply. -/
structure Reply where
  address : UInt8
  sequence : UInt8
  code : UInt8
  data : Bytes
  deriving DecidableEq

/-- Reads a reply up to its control byte, and checks marker and length on the way. -/
def readHead (length : Nat) : Cursor.Read (UInt8 × UInt8) := do
  let marker ← Cursor.byte
  if marker ≠ som then throw (.badMarker som marker)
  let address ← Cursor.byte
  let declared ← Cursor.littleEndian
  if declared.toNat ≠ length then throw (.lengthMismatch declared.toNat length)
  return (address, ← Cursor.byte)

/-- Reads a reply after its control byte: the security block, if any, then code and data. -/
def readTail (control : UInt8) : Cursor.Read (UInt8 × Bytes) := do
  if control &&& blockBit ≠ 0 then
    let length ← Cursor.byte
    let _ ← Cursor.take (length.toNat - 1)
  let code ← Cursor.byte
  return (code, ← Cursor.remainder)

def checkTrailer (body trailer : Bytes) : Except FrameError Unit :=
  match trailer with
  | [lo, hi] =>
    let expected := Checksum.crc Checksum.seedOsdp body
    let received := Bytes.word hi lo
    if expected ≠ received then .error (.checksumMismatch expected received) else .ok ()
  | _ =>
    let expected := Checksum.sum8 body
    let received := trailer.headD 0
    if expected ≠ received then .error (.checksumMismatch expected.toUInt16 received.toUInt16)
    else .ok ()

/-- Opens a reply of the device at `own`: marker, address with bit 7 set, length of the whole frame,
control byte, code, data, trailer. The control byte holds the sequence number in its low two bits,
and tells whether the trailer is a two-byte check instead of a sum and whether a security block
stands before the code. -/
def openReply (own : UInt8) (frame : Bytes) : Except FrameError Reply := do
  let (address, control) ← Cursor.run (readHead frame.length) frame
  let trailer := if control &&& crcBit ≠ 0 then 2 else 1
  if frame.length < 6 + trailer then throw (.tooShort (6 + trailer) frame.length)
  let body := frame.take (frame.length - trailer)
  checkTrailer body (frame.drop (frame.length - trailer))
  if address ≠ own ||| replyBit then
    throw (.unexpectedAnswer (.replyAddress address (own ||| replyBit)))
  let (code, data) ← Cursor.run (readTail control) (body.drop 5)
  return ⟨address, control &&& 0x03, code, data⟩

/-- Address of the device and sequence number of the next command. -/
structure Framer where
  address : UInt8
  sequence : UInt8 := 0
  deriving DecidableEq

namespace Framer

/-- The sequence number after `s`: 0 comes only once, then 1, 2, 3 in turn. -/
def succ (s : UInt8) : UInt8 := if 3 ≤ s then 1 else s + 1

def encode (command : Bytes) : Coding Framer Bytes := do
  if command.isEmpty then throw (.tooShort 1 0)
  let total := 5 + command.length + 2
  if osdpMost < total then throw (.payloadTooLarge total osdpMost)
  let f ← get
  let head := som :: f.address :: Bytes.littleEndian (UInt16.ofNat total)
  let frame := head ++ [f.sequence ||| crcBit] ++ command
  return frame ++ Bytes.littleEndian (Checksum.crc Checksum.seedOsdp frame)

/-- Opens the reply to the last command. A reply with the right sequence number moves the number
on, also when it refuses the command. -/
def decode (frame : Bytes) : Coding Framer Answer := do
  let f ← get
  let reply ← Coding.ofExcept (openReply f.address frame)
  if reply.sequence ≠ f.sequence then
    throw (.unexpectedAnswer (.sequence reply.sequence f.sequence))
  set { f with sequence := succ f.sequence }
  if reply.code = nakReply then throw (.status (.osdpNak (reply.data.headD 0)))
  return ⟨reply.data, reply.code⟩

end Framer

instance : Codec Framer where
  family _ := .osdp
  encode := Framer.encode
  decode := Framer.decode

end CardReader.Osdp
