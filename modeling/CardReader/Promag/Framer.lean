import CardReader.Frame.Answer
import CardReader.Frame.Cut

namespace CardReader.Promag

/-- Codec without state. -/
structure Framer where
  deriving DecidableEq

def openFrame : Bytes → Except FrameError Answer
  | [] => .error (.tooShort 1 0)
  | first :: rest =>
    if first = bel then .ok ⟨[], 0⟩
    else if first = esc then .error (.status (.promag (rest.headD 0)))
    else if first ≠ stx then .error (.badMarker stx first)
    else
      match rest.getLast? with
      | none => .error (.tooShort 2 1)
      | some last => if last = cr then .ok ⟨rest.dropLast, 0⟩ else .error (.badTerminator cr last)

instance : Codec Framer where
  family _ := .promag
  encode command := pure command
  decode frame := Coding.ofExcept (openFrame frame)

end CardReader.Promag
