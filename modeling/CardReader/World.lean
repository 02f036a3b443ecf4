import CardReader.Bytes.Basic
import CardReader.Log

namespace CardReader

/-- State of a reader. -/
inductive ReaderState where
  | disconnected
  | connected
  /-- Connected with a secure session. -/
  | authenticated
  /-- Waiting for a card to come or go. -/
  | scanning
  deriving DecidableEq

def ReaderState.text : ReaderState → String
  | .disconnected => "disconnected"
  | .connected => "connected"
  | .authenticated => "authenticated"
  | .scanning => "scanning"

/-- An entry of the journal. -/
inductive Event where
  | opened (link : String)
  | closed (link : String)
  /-- Bytes were written; `quiet` when events were suppressed at that moment. -/
  | sent (data : Bytes) (quiet : Bool)
  /-- Candidate ports were listed. -/
  | scanned
  /-- A card was looked for at a time, in a state of the reader. -/
  | looked (time : Nat) (state : ReaderState) (quiet : Bool)
  deriving DecidableEq

/-- The surroundings of readers: time, log switch, ports in use, and a journal of what went over
links with its last entry first. -/
structure World where
  clock : Nat := 0
  /-- The latest time that a wait has reckoned with, be it past or to come. -/
  furthest : Nat := 0
  log : LogSwitch := {}
  ports : List String := []
  journal : List Event := []
  deriving DecidableEq

namespace World

def pass (elapsed : Nat) (w : World) : World := { w with clock := w.clock + elapsed }

/-- Lets time pass until `time`, if that is yet to come. -/
def passUntil (time : Nat) (w : World) : World := { w with clock := max w.clock time }

def reckon (time : Nat) (w : World) : World := { w with furthest := max w.furthest time }

/-- The last time, in milliseconds, of a clock that counts whole seconds in 63 bits. -/
def lastTime : Nat := 9223372036854775807999

def note (e : Event) (w : World) : World := { w with journal := e :: w.journal }

/-- Whether events are suppressed. -/
def isQuiet (w : World) : Bool := !w.log.isEnabled

def hush (w : World) : World := { w with log := w.log.suppress }

def unhush (w : World) : World := { w with log := w.log.release }

/-- Takes a port into use, unless it is in use. -/
def claim? (port : String) (w : World) : Option World :=
  if w.ports.contains port then none else some { w with ports := port :: w.ports }

def vacate (port : String) (w : World) : World := { w with ports := w.ports.erase port }

theorem unhush_hush (w : World) : w.hush.unhush = w := rfl

end World

end CardReader
