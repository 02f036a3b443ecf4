import CardReader.Fault.Frame

namespace CardReader

/-- A place in a byte string: how many bytes were read, and the bytes after them. -/
structure Cursor where
  position : Nat
  rest : Bytes

namespace Cursor

def start (data : Bytes) : Cursor := ⟨0, data⟩

/-- Reads from a cursor; a read that fails leaves it where it is. -/
abbrev Read (α : Type) := EStateM FrameError Cursor α

def take (n : Nat) : Read Bytes := fun c =>
  if c.rest.length < n then .error (.tooShort (c.position + n) (c.position + c.rest.length)) c
  else .ok (c.rest.take n) ⟨c.position + n, c.rest.drop n⟩

def byte : Read UInt8 := do return (← take 1).headD 0

def bigEndian : Read UInt16 := do
  let pair ← take 2
  return Bytes.word (pair.getD 0 0) (pair.getD 1 0)

def littleEndian : Read UInt16 := do
  let pair ← take 2
  return Bytes.word (pair.getD 1 0) (pair.getD 0 0)

def remainder : Read Bytes := fun c => .ok c.rest ⟨c.position + c.rest.length, []⟩

/-- Result of reading `data` from its front. -/
def run (read : Read α) (data : Bytes) : Except FrameError α :=
  match read (start data) with
  | .ok a _ => .ok a
  | .error e _ => .error e

end Cursor

end CardReader
