import CardReader.Fault.Config
import CardReader.Stid.Mode

namespace CardReader

def Stid.Mode.parse (text : String) : Except ConfigError Stid.Mode :=
  match Stid.Mode.parse? text with
  | some m => .ok m
  | none => .error (.unknownMode text)

end CardReader
