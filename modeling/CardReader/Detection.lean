import CardReader.Driver
import CardReader.Link.Scripted
import CardReader.Link.Vacant

namespace CardReader

/-- A source of candidate ports: how often it was looked at, and what each look finds. A candidate
is a link that is made at a time. -/
structure Scanner (σ : Type) where
  looks : Nat := 0
  find : Nat → Except LinkError (List (Nat → σ))

namespace Scanner

/-- Serial ports that are not there. -/
def vacant (ports : List String) (line : LineSettings) (retry : Option Nat) : Scanner VacantLink :=
  ⟨0, fun _ => .ok (ports.map fun port _ => .serial port line retry)⟩

/-- A simulated device as it is made at time `now`: what it brings unasked comes after delays. -/
def made (s : ScriptedLink) (now : Nat) : ScriptedLink :=
  { s with queue := ScriptedLink.schedule now s.queue }

/-- Simulated devices, of which the first one with a name answers to it. -/
def candidates (devices : List ScriptedLink) : List (Nat → ScriptedLink) :=
  devices.map fun d => made ((devices.find? fun other => other.name == d.name).getD d)

/-- Looks at simulated devices written down beforehand; the last look repeats. -/
def scripted (scans : List (Except LinkError (List ScriptedLink))) : Scanner ScriptedLink :=
  ⟨0, fun n => ((scans[n]?.or scans.getLast?).getD (.ok [])).map candidates⟩

end Scanner

namespace Detection

variable {σ δ : Type} [Link σ] [Driver δ]

def openProbe : Act σ δ Bool := do
  Channel.openLink
  Driver.probe

/-- Whether a reader answers at a bench; a failure is a no. -/
def answers (b : Bench σ δ) : Bool × Bench σ δ :=
  match openProbe b with
  | .ok found b => (found, b)
  | .error _ b => (false, b)

/-- Closes the link, whatever comes of it. -/
def closed (b : Bench σ δ) : Bench σ δ :=
  match Channel.close b with
  | .ok _ b | .error _ b => b

/-- Tries candidates in turn. The channel of the first one that answers stays open, the others are
closed again. -/
def search (timeout : Nat) : List (Nat → σ) → World → δ → Option (Channel σ) × World × δ
  | [], w, d => (none, w, d)
  | make :: rest, w, d =>
    let (found, b) := answers ⟨w, Channel.onLink (make w.clock) timeout, d⟩
    if found then (some b.channel, b.world, b.driver)
    else
      let b := closed b
      search timeout rest b.world b.driver

/-- What a detection leads to. -/
structure Outcome (σ δ : Type) where
  result : Except LinkError (Option (Channel σ))
  scanner : Scanner σ
  world : World
  driver : δ

/-- Looks for candidates and searches them. -/
def run (timeout : Nat) (scanner : Scanner σ) (w : World) (d : δ) : Outcome σ δ :=
  let w := w.note .scanned
  let looked := { scanner with looks := scanner.looks + 1 }
  match scanner.find scanner.looks with
  | .error e => ⟨.error e, looked, w, d⟩
  | .ok candidates =>
    let (channel, w, d) := search timeout candidates w d
    ⟨.ok channel, looked, w, d⟩

end Detection

end CardReader
