import CardReader.Axess.Device
import CardReader.Osdp.Device
import CardReader.Promag.Device
import CardReader.Prox.Device
import CardReader.Rpleth.Device
import CardReader.Stid.Device

namespace CardReader

/-- A reader of one of the families. -/
inductive AnyDevice where
  | stidStr (d : Stid.Device)
  | rpleth (d : Rpleth.Device)
  | osdp (d : Osdp.Device)
  | axess (d : Axess.Device)
  | stidPrg (d : Prox.Device)
  | promag (d : Promag.Device)
  deriving DecidableEq

namespace AnyDevice

def ofConfig (c : ReaderConfig) : Except ConfigError AnyDevice :=
  match c.family with
  | .stidStr => return .stidStr (← Stid.Device.ofOptions c.stid)
  | .rpleth => .ok (.rpleth { options := c.rpleth })
  | .osdp => .ok (.osdp { framer := { address := c.osdp.address } })
  | .axess => .ok (.axess {})
  | .stidPrg => .ok (.stidPrg {})
  | .promag => .ok (.promag {})

def family : AnyDevice → Family
  | .stidStr d => Codec.family d
  | .rpleth d => Codec.family d
  | .osdp d => Codec.family d
  | .axess d => Codec.family d
  | .stidPrg d => Codec.family d
  | .promag d => Codec.family d

def encode (command : Bytes) : Coding AnyDevice Bytes
  | .stidStr d => Coding.wrapped .stidStr (Codec.encode command d)
  | .rpleth d => Coding.wrapped .rpleth (Codec.encode command d)
  | .osdp d => Coding.wrapped .osdp (Codec.encode command d)
  | .axess d => Coding.wrapped .axess (Codec.encode command d)
  | .stidPrg d => Coding.wrapped .stidPrg (Codec.encode command d)
  | .promag d => Coding.wrapped .promag (Codec.encode command d)

def decode (frame : Bytes) : Coding AnyDevice Answer
  | .stidStr d => Coding.wrapped .stidStr (Codec.decode frame d)
  | .rpleth d => Coding.wrapped .rpleth (Codec.decode frame d)
  | .osdp d => Coding.wrapped .osdp (Codec.decode frame d)
  | .axess d => Coding.wrapped .axess (Codec.decode frame d)
  | .stidPrg d => Coding.wrapped .stidPrg (Codec.decode frame d)
  | .promag d => Coding.wrapped .promag (Codec.decode frame d)

instance : Codec AnyDevice := ⟨family, encode, decode⟩

def ping : AnyDevice → Bytes
  | .stidStr d => Driver.ping d
  | .rpleth d => Driver.ping d
  | .osdp d => Driver.ping d
  | .axess d => Driver.ping d
  | .stidPrg d => Driver.ping d
  | .promag d => Driver.ping d

def acceptsPing : AnyDevice → Answer → Bool
  | .stidStr d => Driver.acceptsPing d
  | .rpleth d => Driver.acceptsPing d
  | .osdp d => Driver.acceptsPing d
  | .axess d => Driver.acceptsPing d
  | .stidPrg d => Driver.acceptsPing d
  | .promag d => Driver.acceptsPing d

def pollInterval : AnyDevice → Nat
  | .stidStr d => Driver.pollInterval d
  | .rpleth d => Driver.pollInterval d
  | .osdp d => Driver.pollInterval d
  | .axess d => Driver.pollInterval d
  | .stidPrg d => Driver.pollInterval d
  | .promag d => Driver.pollInterval d

def isAuthenticated : AnyDevice → Bool
  | .stidStr d => Driver.isAuthenticated d
  | .rpleth d => Driver.isAuthenticated d
  | .osdp d => Driver.isAuthenticated d
  | .axess d => Driver.isAuthenticated d
  | .stidPrg d => Driver.isAuthenticated d
  | .promag d => Driver.isAuthenticated d

def probe [Link σ] : Act σ AnyDevice Bool := fun b =>
  match b.driver with
  | .stidStr d => Act.onPart .stidStr d Driver.probe b
  | .rpleth d => Act.onPart .rpleth d Driver.probe b
  | .osdp d => Act.onPart .osdp d Driver.probe b
  | .axess d => Act.onPart .axess d Driver.probe b
  | .stidPrg d => Act.onPart .stidPrg d Driver.probe b
  | .promag d => Act.onPart .promag d Driver.probe b

def configure [Link σ] : Act σ AnyDevice Unit := fun b =>
  match b.driver with
  | .stidStr d => Act.onPart .stidStr d Driver.configure b
  | .rpleth d => Act.onPart .rpleth d Driver.configure b
  | .osdp d => Act.onPart .osdp d Driver.configure b
  | .axess d => Act.onPart .axess d Driver.configure b
  | .stidPrg d => Act.onPart .stidPrg d Driver.configure b
  | .promag d => Act.onPart .promag d Driver.configure b

def chipInAir [Link σ] : Act σ AnyDevice (Option Chip) := fun b =>
  match b.driver with
  | .stidStr d => Act.onPart .stidStr d Driver.chipInAir b
  | .rpleth d => Act.onPart .rpleth d Driver.chipInAir b
  | .osdp d => Act.onPart .osdp d Driver.chipInAir b
  | .axess d => Act.onPart .axess d Driver.chipInAir b
  | .stidPrg d => Act.onPart .stidPrg d Driver.chipInAir b
  | .promag d => Act.onPart .promag d Driver.chipInAir b

def release [Link σ] : Act σ AnyDevice Unit := fun b =>
  match b.driver with
  | .stidStr d => Act.onPart .stidStr d Driver.release b
  | .rpleth d => Act.onPart .rpleth d Driver.release b
  | .osdp d => Act.onPart .osdp d Driver.release b
  | .axess d => Act.onPart .axess d Driver.release b
  | .stidPrg d => Act.onPart .stidPrg d Driver.release b
  | .promag d => Act.onPart .promag d Driver.release b

instance : Driver AnyDevice where
  ping := ping
  acceptsPing := acceptsPing
  pollInterval := pollInterval
  isAuthenticated := isAuthenticated
  probe := probe
  configure := configure
  chipInAir := chipInAir
  release := release

end AnyDevice

end CardReader
