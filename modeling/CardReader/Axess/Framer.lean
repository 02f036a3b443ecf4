import CardReader.Frame.Answer
import CardReader.Frame.Cut

namespace CardReader.Axess

/-- Codec without state. -/
structure Framer where
  deriving DecidableEq

def openFrame (frame : Bytes) : Except FrameError Answer :=
  match frame.getLast? with
  | none => .error (.tooShort 1 0)
  | some last => if last = cr then .ok ⟨frame.dropLast, 0⟩ else .error (.badTerminator cr last)

instance : Codec Framer where
  family _ := .axess
  encode command := pure (command ++ [cr])
  decode frame := Coding.ofExcept (openFrame frame)

end CardReader.Axess
