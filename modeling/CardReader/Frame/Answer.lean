import CardReader.Family
import CardReader.Fault.Frame

namespace CardReader

/-- Payload of an answer, with the status or reply code beside it. -/
structure Answer where
  data : Bytes
  status : UInt8 := 0
  deriving DecidableEq

/-- A step of a codec with state `κ`; the state outlives a failure. -/
abbrev Coding (κ α : Type) := EStateM FrameError κ α

/-- Codecs: how the protocol of a family frames commands and opens answers. -/
class Codec (κ : Type) where
  family : κ → Family
  encode : Bytes → Coding κ Bytes
  decode : Bytes → Coding κ Answer

namespace Coding

def onPart (get : κ → ι) (set : ι → κ → κ) (step : Coding ι α) : Coding κ α := fun k =>
  match step (get k) with
  | .ok a i => .ok a (set i k)
  | .error e i => .error e (set i k)

/-- The end of a step of a part, as the end of a step of the whole that `wrap` makes of it. -/
def wrapped (wrap : ι → κ) : EStateM.Result FrameError ι α → EStateM.Result FrameError κ α
  | .ok a i => .ok a (wrap i)
  | .error e i => .error e (wrap i)

def ofExcept : Except FrameError α → Coding κ α
  | .ok a => pure a
  | .error e => throw e

end Coding

end CardReader
