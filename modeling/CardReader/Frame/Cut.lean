import CardReader.Bytes.Basic
import CardReader.Family

namespace CardReader

/-- Start of a STid frame and of a Promag answer. -/
def stx : UInt8 := 0x02

/-- End of a STid PRG frame. -/
def etx : UInt8 := 0x03

/-- Promag answer for an empty field. -/
def bel : UInt8 := 0x07

/-- End of an Axess or Promag answer. -/
def cr : UInt8 := 0x0D

/-- Start of a Promag error. -/
def esc : UInt8 := 0x1B

/-- Start of an OSDP frame. -/
def som : UInt8 := 0x53

def osdpLeast : Nat := 7

/-- Largest OSDP frame that is accepted. -/
def osdpMost : Nat := 1440

/-- What the head of a byte string is. Only bounds are settled here, integrity is settled when the
frame is opened. -/
inductive Cut where
  | incomplete
  | frame (length : Nat)
  | discard (length : Nat)
  deriving DecidableEq

namespace Cut

def reaches : Nat → Bytes → Bool
  | 0, _ => true
  | _ + 1, [] => false
  | n + 1, _ :: rest => reaches n rest

/-- A frame of `total` bytes, once they are all there. -/
def whole (total : Nat) (data : Bytes) : Cut :=
  if reaches total data then .frame total else .incomplete

/-- Noise up to the next marker after the first byte. -/
def noise (marker : UInt8) (data : Bytes) : Cut :=
  .discard (1 + (data.drop 1).findIdx (· == marker))

/-- A frame that ends with the first carriage return. -/
def line (data : Bytes) : Cut :=
  match data.findIdx? (· == cr) with
  | some i => .frame (i + 1)
  | none => .incomplete

/-- Status, device, command, length `n`, `n` bytes, checksum. -/
def rpleth : Bytes → Cut
  | a :: b :: c :: n :: rest => whole (n.toNat + 5) (a :: b :: c :: n :: rest)
  | _ => .incomplete

/-- Marker, size, control byte, mode byte, `size` bytes, two bytes of checksum. -/
def stidStr (data : Bytes) : Cut :=
  if data.head? ≠ some stx then noise stx data
  else if ¬ reaches 7 data then .incomplete
  else whole ((Bytes.word (data.getD 1 0) (data.getD 2 0)).toNat + 7) data

/-- Marker, address, length of the whole frame, control byte and the rest. A length outside of the
accepted range shows that the marker is noise. -/
def osdp (data : Bytes) : Cut :=
  if data.head? ≠ some som then noise som data
  else if ¬ reaches 6 data then .incomplete
  else
    let total := (Bytes.word (data.getD 3 0) (data.getD 2 0)).toNat
    if total < osdpLeast ∨ osdpMost < total then .discard 1 else whole total data

/-- Marker, three bytes, length `n`, `n` bytes, checksum, end byte. -/
def stidPrg (data : Bytes) : Cut :=
  if data.head? ≠ some stx then noise stx data
  else if ¬ reaches 5 data then .incomplete
  else whole ((data.getD 4 0).toNat + 7) data

/-- A line after the start byte, everything after an error or empty-field byte, else noise. -/
def promag (data : Bytes) : Cut :=
  if data.head? = some esc ∨ data.head? = some bel then .frame data.length
  else if data.head? = some stx then line data
  else .discard data.length

/-- What the head of `data` is under the protocol of `family`. -/
def ofHead (family : Family) (data : Bytes) : Cut :=
  if data.isEmpty then .incomplete
  else
    match family with
    | .rpleth => rpleth data
    | .stidStr => stidStr data
    | .osdp => osdp data
    | .axess => line data
    | .stidPrg => stidPrg data
    | .promag => promag data

/-- Size of the frame that a length header at the head announces. -/
def announced? (family : Family) (data : Bytes) : Option Nat :=
  match family, data with
  | .rpleth, _ :: _ :: _ :: n :: _ => some (n.toNat + 5)
  | .stidStr, a :: hi :: lo :: _ => if a = stx then some ((Bytes.word hi lo).toNat + 7) else none
  | .osdp, a :: _ :: lo :: hi :: _ => if a = som then some (Bytes.word hi lo).toNat else none
  | .stidPrg, a :: _ :: _ :: _ :: n :: _ => if a = stx then some (n.toNat + 7) else none
  | _, _ => none

/-- What the head of `data` is when at most `capacity` bytes can be held: a header that announces
more is noise. -/
def within (capacity : Nat) (family : Family) (data : Bytes) : Cut :=
  match announced? family data with
  | some total => if capacity < total then .discard 1 else ofHead family data
  | none => ofHead family data

theorem reaches_iff (n : Nat) (data : Bytes) : reaches n data = true ↔ n ≤ data.length := by
  induction n generalizing data with
  | zero => simp [reaches]
  | succ n ih => cases data with
    | nil => simp [reaches]
    | cons b rest => simp [reaches, ih]

theorem ofHead_nil (family : Family) : ofHead family [] = .incomplete := rfl

theorem within_nil (capacity : Nat) (family : Family) : within capacity family [] = .incomplete := by
  cases family <;> rfl

end Cut

end CardReader
