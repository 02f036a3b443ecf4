import CardReader.Proofs.Reader
import CardReader.Proofs.Stid.Device
import CardReader.Reader.Stid

namespace CardReader.Stid

open Run Act

/-- What a connected reader can be asked for that leaves its session alone. -/
inductive Request where
  | send (command : Bytes)
  | waitInsertion (wait patience : Nat)
  | waitRemoval (wait patience : Nat)
  | information
  | changeKeys (hmacKey : Option Bytes) (aesKey : Option Block)
  | setBaud (baud : Baud)
  | setAddress (address : UInt8)
  | setAllowedModes (plain signed ciphered : Bool)
  | setTamperSwitch (enabled : Bool) (behavior : TamperBehavior)
  | tamperSwitch
  | loadKeys
  deriving DecidableEq

inductive Operation where
  | connect
  | disconnect
  | resetAuthenticate
  | ask (request : Request)
  deriving DecidableEq

variable {σ : Type} [Link σ]

def Request.run : Request → Reader.Op σ Device Unit
  | .send command => do let _ ← Reader.send command
  | .waitInsertion wait patience => do let _ ← Reader.waitInsertion wait patience
  | .waitRemoval wait patience => do let _ ← Reader.waitRemoval wait patience
  | .information => do let _ ← Reader.information
  | .changeKeys hmacKey aesKey => Reader.changeKeys hmacKey aesKey
  | .setBaud baud => Reader.setBaud baud
  | .setAddress address => Reader.setAddress address
  | .setAllowedModes plain signed ciphered => Reader.setAllowedModes plain signed ciphered
  | .setTamperSwitch enabled behavior => Reader.setTamperSwitch enabled behavior
  | .tamperSwitch => do let _ ← Reader.tamperSwitch
  | .loadKeys => Reader.loadKeys

def Operation.run : Operation → Reader.Op σ Device Unit
  | .connect => Reader.connect
  | .disconnect => Reader.disconnect
  | .resetAuthenticate => Reader.resetAuthenticate
  | .ask request => request.run

def Operation.runs (s : Station σ Device) (ops : List Operation) : Station σ Device :=
  ops.foldl (fun s op => after (op.run s)) s

/-- What an exchange guards, every request does, and leaves the reader in its state. -/
theorem Request.run_calm {J : Device → Prop} {P : Bytes → Prop}
    (hsend : ∀ command, Keeps (Guards J P) (Channel.send command : Act σ Device Answer))
    (request : Request) : Keeps (Station.Calm J P) (request.run (σ := σ)) := by
  have hC := Station.closed_calm (σ := σ) (J := J) (P := P)
  have hchip : Keeps (Guards J P) (Driver.chipInAir : Act σ Device (Option Chip)) :=
    Device.chipInAir_guards hsend
  cases request with
  | send command =>
    exact Keeps.bind hC (Reader.use_calm (hsend command)) fun _ => Keeps.pure hC _
  | waitInsertion wait patience =>
    exact Keeps.bind hC (Reader.waitInsertion_calm hchip wait patience) fun _ => Keeps.pure hC _
  | waitRemoval wait patience =>
    exact Keeps.bind hC (Reader.waitRemoval_calm hchip wait patience) fun _ => Keeps.pure hC _
  | information =>
    have hact := Device.query_guards hsend informationCode [] Information.ofPayload
    exact Keeps.bind hC (Reader.use_calm hact) fun _ => Keeps.pure hC _
  | changeKeys hmacKey aesKey =>
    exact Reader.use_calm (Device.changeKeys_guards hsend hmacKey aesKey)
  | setBaud baud => exact Reader.use_calm (Device.order_guards hsend baudCode _)
  | setAddress address => exact Reader.use_calm (Device.setAddress_guards hsend address)
  | setAllowedModes plain signed ciphered =>
    exact Reader.use_calm (Device.order_guards hsend allowedModesCode _)
  | setTamperSwitch enabled behavior =>
    exact Reader.use_calm (Device.order_guards hsend setTamperCode _)
  | tamperSwitch =>
    have hact := Device.query_guards hsend tamperCode [] TamperSwitch.ofPayload
    exact Keeps.bind hC (Reader.use_calm hact) fun _ => Keeps.pure hC _
  | loadKeys => exact Reader.use_calm (Device.loadKeys_guards hsend)

theorem resetAuthenticate_watched {J : Device → Prop} {P : Bytes → Prop}
    (hsend : ∀ command, Keeps (Guards J P) (Channel.send command : Act σ Device Answer))
    (hreset : ∀ d, J d → J { d with framer := d.framer.resetSession }) :
    Keeps (Station.Watched J P) (Reader.resetAuthenticate (σ := σ)) := by
  have hact := Device.resetAuthenticate_guards hsend hreset
  unfold Reader.resetAuthenticate
  refine Keeps.bind Station.closed_watched (fun s => (Reader.use_calm hact s).toWatched) fun _ => ?_
  exact Keeps.change fun _ => .of_same rfl rfl rfl

end CardReader.Stid
