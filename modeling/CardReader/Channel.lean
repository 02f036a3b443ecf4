import CardReader.Fault.Reader
import CardReader.Frame.Answer
import CardReader.Frame.Buffer
import CardReader.Link.Basic
import CardReader.World

namespace CardReader

/-- The last command and its answer as they travelled. -/
structure Exchange where
  command : Bytes := []
  answer : Bytes := []
  deriving DecidableEq

/-- A link with what was received on it. -/
structure Channel (σ : Type) where
  link : σ
  buffer : FrameBuffer
  timeout : Nat
  last : Exchange

/-- A driver at its channel, in its surroundings. -/
structure Bench (σ δ : Type) where
  world : World
  channel : Channel σ
  driver : δ

/-- Something done at a bench; what it did stays done when it fails. -/
abbrev Act (σ δ α : Type) := EStateM ReaderError (Bench σ δ) α

namespace Act

/-- Restores something when `act` is over, however it ends. -/
def andAlways (act : Act σ δ α) (restore : Bench σ δ → Bench σ δ) : Act σ δ α := fun b =>
  match act b with
  | .ok a b => .ok a (restore b)
  | .error e b => .error e (restore b)

/-- Runs an act of a driver that is a part of another one. -/
def onPart (wrap : ι → δ) (part : ι) (act : Act σ ι α) : Act σ δ α := fun b =>
  match act ⟨b.world, b.channel, part⟩ with
  | .ok a b => .ok a ⟨b.world, b.channel, wrap b.driver⟩
  | .error e b => .error e ⟨b.world, b.channel, wrap b.driver⟩

def ofCoding (step : Coding δ α) : Act σ δ α := fun b =>
  match step b.driver with
  | .ok a d => .ok a { b with driver := d }
  | .error e d => .error (.frame e) { b with driver := d }

/-- An operation on the link, which takes its time. -/
def ofLink (op : Nat → σ → Outcome σ α) : Act σ δ α := fun b =>
  let out := op b.world.clock b.channel.link
  let b := { b with
    world := b.world.pass out.elapsed
    channel := { b.channel with link := out.link } }
  match out.result with
  | .ok a => .ok a b
  | .error e => .error (.link e) b

def ofExcept : Except ReaderError α → Act σ δ α
  | .ok a => pure a
  | .error e => throw e

def now : Act σ δ Nat := return (← get).world.clock

def onWorld (f : World → World) : Act σ δ Unit := modify fun b => { b with world := f b.world }

def onChannel (f : Channel σ → Channel σ) : Act σ δ Unit :=
  modify fun b => { b with channel := f b.channel }

def onDriver (f : δ → δ) : Act σ δ Unit := modify fun b => { b with driver := f b.driver }

end Act

namespace Channel

variable {σ δ : Type}

/-- A channel over a link; `timeout` bounds the wait for an answer. -/
def onLink (link : σ) (timeout : Nat) : Channel σ :=
  ⟨link, .empty FrameBuffer.defaultCapacity, timeout, {}⟩

def isConnected [Link σ] (c : Channel σ) : Bool := Link.isOpen c.link

/-- Port, or host and port. -/
def name [Link σ] (c : Channel σ) : String := Link.name c.link

def setTimeout (timeout : Nat) : Act σ δ Unit := Act.onChannel ({ · with timeout })

/-- Opens the link; nothing received before counts. -/
def openLink [Link σ] : Act σ δ Unit := do
  Act.onChannel fun c => { c with buffer := c.buffer.clear, last := {} }
  let c := (← get).channel
  Act.onWorld (World.note (.opened c.name))
  Act.ofLink Link.connect

/-- Closes the link if it is open; nothing received counts any more. -/
def close [Link σ] : Act σ δ Unit := do
  Act.onChannel fun c => { c with buffer := c.buffer.clear }
  let c := (← get).channel
  if c.isConnected then
    Act.onWorld (World.note (.closed c.name))
    Act.ofLink Link.disconnect

/-- Writes bytes; only an open link brings them onto the wire. -/
def write [Link σ] (data : Bytes) : Act σ δ Unit := do
  let b ← get
  if b.channel.isConnected then Act.onWorld (World.note (.sent data b.world.isQuiet))
  Act.ofLink fun now => Link.send now data

def transmit [Link σ] [Codec δ] (command : Bytes) : Act σ δ Unit := do
  let raw ← Act.ofCoding (Codec.encode command)
  write raw
  Act.onChannel ({ · with last := ⟨raw, []⟩ })

def takeFrame (family : Family) : Act σ δ (Option Bytes) := fun b =>
  let (frame, buffer) := b.channel.buffer.next family
  .ok frame { b with channel := { b.channel with buffer } }

/-- Collects chunks until a frame is there or time is up; `chunks` bounds their number. -/
def collect [Link σ] (family : Family) (deadline : Nat) : Nat → Act σ δ (Option Bytes)
  | 0 => takeFrame family
  | chunks + 1 => do
    match ← takeFrame family with
    | some frame => return some frame
    | none =>
      if deadline ≤ (← Act.now) then return none
      let chunk ← Act.ofLink fun now => Link.receive now deadline
      if chunk.isEmpty then return none
      Act.onChannel fun c => { c with buffer := c.buffer.extend chunk }
      collect family deadline chunks

/-- Waits for one frame until `deadline`. Without a frame, bytes left over are a cut frame. -/
def receiveFrame [Link σ] (family : Family) (deadline : Nat) : Act σ δ Bytes := do
  let started ← Act.now
  match ← collect family deadline (Link.backlog (← get).channel.link + 1) with
  | some frame => return frame
  | none =>
    let buffered := (← get).channel.buffer.data.length
    if buffered = 0 then throw (.timeout (deadline - started))
    throw (.frame (.truncated buffered))

/-- Sends a command and waits at most `timeout` for its answer. Bytes left over from before are
dropped first. -/
def sendWithin [Link σ] [Codec δ] (timeout : Nat) (command : Bytes) : Act σ δ Answer := do
  if ¬ (← get).channel.isConnected then throw .notConnected
  Act.onChannel fun c => { c with buffer := c.buffer.clear }
  transmit command
  let frame ← receiveFrame (Codec.family (← get).driver) ((← Act.now) + timeout)
  Act.onChannel fun c => { c with last := { c.last with answer := frame } }
  Act.ofCoding (Codec.decode frame)

def send [Link σ] [Codec δ] (command : Bytes) : Act σ δ Answer := do
  sendWithin (← get).channel.timeout command

end Channel

end CardReader
