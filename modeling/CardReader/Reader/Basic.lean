import CardReader.Detection
import CardReader.Settings

namespace CardReader

/-- A reader. One with a scanner has a channel only from one detection until it is given up. -/
structure Reader (σ δ : Type) where
  driver : δ
  channel : Option (Channel σ)
  scanner : Option (Scanner σ)
  settings : Settings
  state : ReaderState := .disconnected
  inserted : Option Chip := none
  pending : Option Chip := none
  /-- Whether ports that it finds are taken into use. -/
  sharesPorts : Bool := false
  /-- Port that it has in use. -/
  lease : Option String := none

/-- A reader in its surroundings. -/
structure Station (σ δ : Type) where
  world : World
  reader : Reader σ δ

namespace Reader

variable {σ δ α : Type}

/-- Something done with a reader; what it did stays done when it fails. -/
abbrev Op (σ δ α : Type) := EStateM ReaderError (Station σ δ) α

/-- A reader at a known link. -/
def onLink (driver : δ) (link : σ) (settings : Settings) : Reader σ δ :=
  { driver, channel := some (.onLink link settings.dataTimeout), scanner := none, settings }

/-- A reader whose port is found when it is connected. -/
def detected (driver : δ) (scanner : Scanner σ) (settings : Settings) : Reader σ δ :=
  { driver, channel := none, scanner := some scanner, settings }

/-- Name of the port; a reader that is still to be found has none. -/
def name [Link σ] (r : Reader σ δ) : Option String := r.channel.map Channel.name

/-- Whether the reader is in use and its link open. -/
def isConnected [Link σ] (r : Reader σ δ) : Bool :=
  r.state != .disconnected && r.channel.any Channel.isConnected

end Reader

namespace Station

variable {σ δ : Type}

def onReader (f : Reader σ δ → Reader σ δ) (s : Station σ δ) : Station σ δ :=
  { s with reader := f s.reader }

def reckon (time : Nat) (s : Station σ δ) : Station σ δ := { s with world := s.world.reckon time }

/-- Puts a bench back. -/
def back (s : Station σ δ) (b : Bench σ δ) : Station σ δ :=
  ⟨b.world, { s.reader with driver := b.driver, channel := some b.channel }⟩

/-- Gives back the port in use, if any. -/
def vacated (s : Station σ δ) : Station σ δ :=
  match s.reader.lease with
  | some port => ⟨s.world.vacate port, { s.reader with lease := none }⟩
  | none => s

/-- A port that was found is looked for again the next time. -/
def forget (s : Station σ δ) : Station σ δ :=
  if s.reader.scanner.isSome then (s.onReader ({ · with channel := none })).vacated else s

end Station

namespace Reader

variable {σ δ α : Type}

def change (f : Reader σ δ → Reader σ δ) : Op σ δ Unit := modify (Station.onReader f)

def atChannel (c : Channel σ) (act : Act σ δ α) : Op σ δ α := fun s =>
  match act ⟨s.world, c, s.reader.driver⟩ with
  | .ok a b => .ok a (s.back b)
  | .error e b => .error e (s.back b)

/-- Runs an act at the channel of a connected reader. -/
def use [Link σ] (act : Act σ δ α) : Op σ δ α := fun s =>
  match s.reader.channel with
  | some c => if s.reader.isConnected then atChannel c act s else .error .notConnected s
  | none => .error .notConnected s

/-- Runs an act at the channel, if there is one; a failure is passed over. -/
def quietly (act : Act σ δ Unit) (s : Station σ δ) : Station σ δ :=
  match s.reader.channel with
  | some c =>
    match atChannel c act s with
    | .ok _ s | .error _ s => s
  | none => s

/-- Takes a port into use in place of the one before. -/
def claim (port : String) : Op σ δ Unit := fun s =>
  match s.world.claim? port with
  | none => .error (.portInUse port) s
  | some world =>
    let s := Station.vacated { s with world }
    .ok () (s.onReader ({ · with lease := some port }))

/-- Keeps a channel that was found, if its port is not in use; else closes it. -/
def keep [Link σ] (c : Channel σ) : Op σ δ Unit := fun s =>
  let kept := s.onReader ({ · with channel := some c })
  if ¬ s.reader.sharesPorts then .ok () kept
  else
    match claim c.name s with
    | .ok _ s => .ok () (s.onReader ({ · with channel := some c }))
    | .error e _ => .error e ((quietly Channel.close kept).onReader ({ · with channel := none }))

def detect [Link σ] [Driver δ] : Op σ δ Unit := do
  let r := (← get).reader
  let some scanner := r.scanner | throw (.badState .noLink)
  if ¬ r.settings.detectPorts then throw (.badState .detectionDisabled)
  let out := Detection.run r.settings.detectionTimeout scanner (← get).world r.driver
  set (⟨out.world, { r with driver := out.driver, scanner := some out.scanner }⟩ : Station σ δ)
  match out.result with
  | .error e => throw (.link e)
  | .ok none => throw .noReaderFound
  | .ok (some c) => keep c

/-- Opens the channel, or finds one. -/
def openChannel [Link σ] [Driver δ] : Op σ δ Unit := do
  match (← get).reader.channel with
  | some c => atChannel c Channel.openLink
  | none => detect

/-- Configures the reader at its open channel; a failure closes the channel. -/
def start [Link σ] [Driver δ] : Op σ δ Unit := fun s =>
  match s.reader.channel with
  | none => .error .notConnected s
  | some c =>
    let act : Act σ δ Unit := do
      Channel.setTimeout s.reader.settings.dataTimeout
      Driver.configure
    match atChannel c act s with
    | .ok _ s =>
      let state := if Driver.isAuthenticated s.reader.driver then .authenticated else .connected
      .ok () (s.onReader ({ · with state }))
    | .error e s =>
      let s := (quietly Channel.close s).forget
      .error e (s.onReader ({ · with state := .disconnected }))

/-- Opens the link and configures the reader, unless it is connected. -/
def connect [Link σ] [Driver δ] : Op σ δ Unit := do
  if (← get).reader.isConnected then return ()
  openChannel
  start

/-- Releases the reader and closes the link; only a failure of the closing counts. -/
def disconnect [Link σ] [Driver δ] : Op σ δ Unit := fun s =>
  let s := s.onReader
    ({ · with state := .disconnected, inserted := none, pending := none })
  match s.reader.channel with
  | none => .ok () s
  | some c =>
    if ¬ c.isConnected then .ok () s.forget
    else
      let s := quietly Driver.release s
      match atChannel ((s.reader.channel).getD c) Channel.close s with
      | .ok _ s => .ok () s.forget
      | .error e s => .error e s.forget

def send [Link σ] [Driver δ] (command : Bytes) : Op σ δ Answer := use (Channel.send command)

end Reader

end CardReader
