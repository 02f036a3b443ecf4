import CardReader.Reader.Basic
import CardReader.Stid.Device

namespace CardReader.Reader

variable {σ : Type} [Link σ]

def information : Op σ Stid.Device Stid.Information := use Stid.Device.information

def changeKeys (hmacKey : Option Bytes) (aesKey : Option Block) : Op σ Stid.Device Unit :=
  use (Stid.Device.changeKeys hmacKey aesKey)

def setBaud (baud : Stid.Baud) : Op σ Stid.Device Unit := use (Stid.Device.setBaud baud)

def setAddress (address : UInt8) : Op σ Stid.Device Unit := use (Stid.Device.setAddress address)

def setAllowedModes (plain signed ciphered : Bool) : Op σ Stid.Device Unit :=
  use (Stid.Device.setAllowedModes plain signed ciphered)

def setTamperSwitch (enabled : Bool) (behavior : Stid.TamperBehavior) : Op σ Stid.Device Unit :=
  use (Stid.Device.setTamperSwitch enabled behavior)

def tamperSwitch : Op σ Stid.Device Stid.TamperSwitch := use Stid.Device.tamperSwitch

def loadKeys : Op σ Stid.Device Unit := use Stid.Device.loadKeys

/-- Drops the session on the side of the reader; the reader stays connected. -/
def resetAuthenticate : Op σ Stid.Device Unit := do
  use Stid.Device.resetAuthenticate
  change ({ · with state := .connected })

end CardReader.Reader
