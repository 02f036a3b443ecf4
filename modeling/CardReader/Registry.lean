import CardReader.AnyDevice
import CardReader.Config.Validation
import CardReader.Reader.Basic

namespace CardReader

/-- How devices of a family are built. -/
structure Provider where
  family : Family
  build : ReaderConfig → Except ReaderError AnyDevice
  /-- Where a reader is when a configuration does not say. -/
  defaultEndpoint : Endpoint := .serial none (some family.defaultBaud)

namespace Provider

/-- Devices of the library. -/
def buildAny (c : ReaderConfig) : Except ReaderError AnyDevice :=
  match AnyDevice.ofConfig c with
  | .ok d => .ok d
  | .error e => .error (.config e)

/-- Factory address of Rpleth boxes; others are on a serial line. -/
def factoryEndpoint : Family → Endpoint
  | .rpleth => .tcp "192.168.1.100" 23
  | family => .serial none (some family.defaultBaud)

/-- The library's own provider. -/
def builtin (family : Family) : Provider :=
  { family, build := fun c => buildAny { c with family }, defaultEndpoint := factoryEndpoint family }

end Provider

/-- The providers that are registered, at most one for a family. -/
structure Registry where
  provider : Family → Option Provider

namespace Registry

def empty : Registry := ⟨fun _ => none⟩

/-- Adds a provider in place of the one of its family. -/
def register (p : Provider) (r : Registry) : Registry :=
  ⟨fun f => if f = p.family then some p else r.provider f⟩

/-- The library's own provider for each family. -/
def defaults : Registry := Family.all.foldl (fun r f => r.register (.builtin f)) empty

def families (r : Registry) : List Family := Family.all.filter fun f => (r.provider f).isSome

/-- Where a reader of a family is when a configuration does not say. -/
def defaultEndpoint (family : Family) (r : Registry) : Option Endpoint :=
  (r.provider family).map Provider.defaultEndpoint

end Registry

/-- How links are made. -/
structure Outlets (σ : Type) where
  serial : String → LineSettings → Option Nat → σ
  socket : String → UInt16 → Nat → σ
  /-- Source of the serial ports that there are. -/
  scanner : LineSettings → Option Nat → Scanner σ

/-- Outlets without devices behind them. -/
def Outlets.vacant : Outlets VacantLink := ⟨.serial, .socket, Scanner.vacant []⟩

namespace Registry

variable {σ : Type}

/-- The device that a configuration describes, if it is sound and its family registered. -/
def device (r : Registry) (c : ReaderConfig) : Except ReaderError AnyDevice :=
  match c.validate with
  | .error e => .error (.config e)
  | .ok _ =>
    match r.provider c.family with
    | none => .error (.unsupported (.noProvider c.family))
    | some p => p.build c

/-- Delay before the second try to open a serial port, if there is to be one. -/
def retryDelay? (s : Settings) : Option Nat := if s.retryConfiguration then some s.retryDelay else none

/-- Puts a device where the configuration says, and takes a named serial port into use. -/
def place (outlets : Outlets σ) (c : ReaderConfig) (s : Settings) (d : AnyDevice) (w : World) :
    Except ReaderError (Reader σ AnyDevice × World) :=
  match c.endpoint with
  | .tcp host port =>
    .ok ({ Reader.onLink d (outlets.socket host port s.dataTimeout) s with sharesPorts := true }, w)
  | .serial port baud =>
    let line : LineSettings := ⟨baud.getD c.family.defaultBaud⟩
    match port with
    | none =>
      let scanner := outlets.scanner line (retryDelay? s)
      .ok ({ Reader.detected d scanner s with sharesPorts := true }, w)
    | some port =>
      match w.claim? port with
      | none => .error (.portInUse port)
      | some w =>
        let link := outlets.serial port line (retryDelay? s)
        .ok ({ Reader.onLink d link s with sharesPorts := true, lease := some port }, w)

/-- A reader for a configuration; one at a named serial port takes that port into use. A failure
takes nothing into use. -/
def create (r : Registry) (outlets : Outlets σ) (c : ReaderConfig) (s : Settings) (w : World) :
    Except ReaderError (Reader σ AnyDevice × World) :=
  match r.device c with
  | .error e => .error e
  | .ok d => place outlets c s d w

end Registry

end CardReader
