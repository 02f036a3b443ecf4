import CardReader.Text.Blank

namespace CardReader

/-- A base choice, and the number of guards that suppress events. Events come back when the last
guard is gone, in whatever order guards go. -/
structure LogSwitch where
  base : Bool := true
  guards : Nat := 0
  deriving DecidableEq

namespace LogSwitch

/-- Whether events are shown. -/
def isEnabled (s : LogSwitch) : Bool := s.base && s.guards == 0

def setBase (on : Bool) (s : LogSwitch) : LogSwitch := { s with base := on }

def suppress (s : LogSwitch) : LogSwitch := { s with guards := s.guards + 1 }

def release (s : LogSwitch) : LogSwitch := { s with guards := s.guards - 1 }

theorem release_suppress (s : LogSwitch) : s.suppress.release = s := rfl

end LogSwitch

/-- The switch with the guards handed out so far, oldest first, and whether each is still alive. -/
structure LogGuards where
  switch : LogSwitch := {}
  alive : List Bool := []
  deriving DecidableEq

namespace LogGuards

/-- What can happen to the switch. -/
inductive Step where
  | setBase (on : Bool)
  | suppress
  | drop (guard : Nat)
  deriving DecidableEq

/-- One step; dropping a guard a second time, or one never handed out, does nothing. -/
def step (g : LogGuards) : Step → LogGuards
  | .setBase on => { g with switch := g.switch.setBase on }
  | .suppress => ⟨g.switch.suppress, g.alive ++ [true]⟩
  | .drop n =>
    if g.alive.getD n false then ⟨g.switch.release, g.alive.set n false⟩ else g

end LogGuards

namespace LogFilter

/-- Names of the levels, quietest first. -/
def levels : List String := ["off", "error", "warn", "info", "debug", "trace"]

/-- The level that a text names, in any case or by its place; an empty text names errors. -/
def level? (text : String) : Option String :=
  if text.isEmpty then some "error"
  else
    match levels.find? (· == String.ofList (Text.lowered text.toList)) with
    | some name => some name
    | none => (text.toNat?).bind (levels[·]?)

/-- Filter of events: the library's own choice wins over the general one, and bytes on the wire
are left out unless they are asked for. -/
def text (own general : Option String) (showWire : Bool) : String :=
  let level := ((own.bind level?).or (general.bind level?)).getD "info"
  if showWire then level else "readerlink::wire=off," ++ level

end LogFilter

end CardReader
