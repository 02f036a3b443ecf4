import CardReader.Reader.Basic

namespace CardReader.Reader

variable {σ δ β : Type}

/-- Runs `op` by a clock whose last time is `limit`. The program stops, and nothing comes of `op`,
when it reckons with a later one. -/
def byClock (limit : Nat) (op : Op σ δ β) (s : Station σ δ) :
    Option (EStateM.Result ReaderError (Station σ δ) β) :=
  match op s with
  | .ok b t => if t.world.furthest ≤ limit then some (.ok b t) else none
  | .error e t => if t.world.furthest ≤ limit then some (.error e t) else none

/-- Pauses until the next look or until the deadline, whichever is earlier; tells whether there is a
next look. -/
def pause (interval : Nat) (deadline : Option Nat) (w : World) : Bool × World :=
  -- the time of the next look is reckoned with even where the deadline has passed
  let next := w.clock + interval
  let reckoned := w.reckon next
  match deadline with
  | none => (true, reckoned.passUntil next)
  | some deadline =>
    if deadline ≤ w.clock then (false, reckoned)
    else (true, reckoned.passUntil (min next deadline))

/-- The same, of a reader. -/
def rest [Driver δ] (deadline : Option Nat) : Op σ δ Bool := fun s =>
  let (again, world) := pause (Driver.pollInterval s.reader.driver) deadline s.world
  .ok again { s with world }

def look [Link σ] [Driver δ] : Op σ δ (Option Chip) := do
  let s ← get
  use (do
    Act.onWorld (World.note (.looked s.world.clock s.reader.state s.world.isQuiet))
    Driver.chipInAir)

/-- Looks, pauses and looks again, at most `looks` times, until `judge` settles what a look saw or
time is up. -/
def poll [Link σ] [Driver δ] (judge : Option Chip → Option β) (deadline : Option Nat) :
    Nat → Op σ δ (Option β)
  | 0 => return none
  | looks + 1 => do
    match judge (← look) with
    | some settled => return some settled
    | none => if ← rest deadline then poll judge deadline looks else return none

/-- Runs `op` as a scan: in its own state, and without events unless `shown`. -/
def scanning (shown : Bool) (op : Op σ δ β) : Op σ δ β := fun s =>
  let resume := s.reader.state
  let s := s.onReader ({ · with state := .scanning })
  let s := if shown then s else { s with world := s.world.hush }
  let after (s : Station σ δ) : Station σ δ :=
    let s := if shown then s else { s with world := s.world.unhush }
    s.onReader ({ · with state := resume })
  match op s with
  | .ok a s => .ok a (after s)
  | .error e s => .error e (after s)

/-- More looks than fit into a wait, an interval apart. Without an interval they are bounded by
nothing but `patience`. -/
def looksWithin (wait interval patience : Nat) : Nat :=
  if interval = 0 then patience + 1 else wait / interval + 2

/-- Polls from now on for at most `wait`; no wait is a wait without end, of at most `patience`
looks. -/
def pollFor [Link σ] [Driver δ] (judge : Option Chip → Option β) (wait patience : Nat) :
    Op σ δ (Option β) := do
  let s ← get
  if wait = 0 then poll judge none patience
  else
    let deadline := s.world.clock + wait
    modify (Station.reckon deadline)
    poll judge (some deadline) (looksWithin wait (Driver.pollInterval s.reader.driver) patience)

/-- Waits until a card is in the field. A card that took the place of another one is told at
once. -/
def waitInsertion [Link σ] [Driver δ] (wait patience : Nat) : Op σ δ (Option Chip) := do
  let r := (← get).reader
  if ¬ r.isConnected then throw .notConnected
  match r.pending with
  | some chip =>
    change ({ · with pending := none, inserted := some chip })
    return some chip
  | none =>
    match ← scanning r.settings.seeInsertionLog (pollFor id wait patience) with
    | some chip =>
      change ({ · with inserted := some chip })
      return some chip
    | none => return none

/-- How a card can be gone. -/
inductive Removal where
  | gone
  | replaced (chip : Chip)
  deriving DecidableEq

/-- Whether a card is gone by what a look saw. -/
def Removal.judge (inserted : Chip) : Option Chip → Option Removal
  | none => some .gone
  | some chip => if chip.same inserted then none else some (.replaced chip)

def Removal.chip? : Removal → Option Chip
  | .gone => none
  | .replaced chip => some chip

/-- Waits until the inserted card is gone. A card in its place is kept for the next wait. -/
def waitRemoval [Link σ] [Driver δ] (wait patience : Nat) : Op σ δ Bool := do
  let r := (← get).reader
  if ¬ r.isConnected then throw .notConnected
  match r.inserted with
  | none => return true
  | some inserted =>
    match ← scanning r.settings.seeRemovalLog (pollFor (Removal.judge inserted) wait patience) with
    | none => return false
    | some removal =>
      change fun r => { r with inserted := none, pending := removal.chip?.or r.pending }
      return true

end CardReader.Reader
