import CardReader.Bytes.Basic

namespace CardReader.Checksum

def xor (data : Bytes) : UInt8 := data.foldl (· ^^^ ·) 0

/-- The byte that brings the sum of `data` and itself to zero. -/
def sum8 (data : Bytes) : UInt8 := 0 - data.foldl (· + ·) 0

/-- The polynomial without its leading term. -/
def poly : BitVec 16 := 0x1021#16

/-- Moves the register one place; a bit that leaves on the left brings the polynomial in. -/
def shift (r : BitVec 16) : BitVec 16 := if r.msb then (r <<< 1) ^^^ poly else r <<< 1

def shifts : Nat → BitVec 16 → BitVec 16
  | 0, r => r
  | n + 1, r => shifts n (shift r)

/-- Takes one byte in at the top of the register. -/
def step (r : BitVec 16) (b : UInt8) : BitVec 16 :=
  shifts 8 (r ^^^ (b.toBitVec.zeroExtend 16 <<< 8))

/-- Cyclic redundancy check of `data` from the register `seed`, with the polynomial x^16 + x^12 +
x^5 + 1, most significant bit first and without reflection. -/
def crc (seed : UInt16) (data : Bytes) : UInt16 := ⟨data.foldl step seed.toBitVec⟩

def seedStid : UInt16 := 0xFFFF

def seedOsdp : UInt16 := 0x1D0F

theorem crc_nil (seed : UInt16) : crc seed [] = seed := rfl

theorem crc_append (seed : UInt16) (a b : Bytes) : crc seed (a ++ b) = crc (crc seed a) b := by
  simp [crc, List.foldl_append]

end CardReader.Checksum
