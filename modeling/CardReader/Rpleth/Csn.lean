import CardReader.Bytes.Basic

namespace CardReader.Rpleth.Csn

/-- Bits of a byte, lowest first. -/
def bits (b : UInt8) : List Bool := (List.range 8).map b.toNat.testBit

/-- Number with given bits, lowest first. -/
def value : List Bool → Nat
  | [] => 0
  | b :: rest => b.toNat + 2 * value rest

/-- Bytes of a bit string, lowest byte first; the last byte may be filled with zeros. -/
def pack : List Bool → Bytes
  | [] => []
  | b :: rest => UInt8.ofNat (value ((b :: rest).take 8)) :: pack (rest.drop 7)
termination_by field => field.length
decreasing_by simp only [List.length_drop, List.length_cons]; omega

/-- The `length` bits that stand `offset` bits before the end of a frame, lowest first. -/
def field (frame : Bytes) (length offset : Nat) : List Bool :=
  ((frame.reverse.flatMap bits).drop offset).take length

/-- The serial number, aligned to the right; the whole frame if no length is given, nothing if the
frame is too short. -/
def extract (frame : Bytes) (length offset : UInt32) : Option Bytes :=
  if length = 0 then some frame
  else if frame.length * 8 < length.toNat + offset.toNat then none
  else some (pack (field frame length.toNat offset.toNat)).reverse

end CardReader.Rpleth.Csn
