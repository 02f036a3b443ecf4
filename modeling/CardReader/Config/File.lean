import CardReader.Config.Decode
import CardReader.Config.Environment

namespace CardReader

/-- What stands at a path. -/
inductive FileState where
  | missing
  | unreadable
  | holding (contents : Bytes)

/-- Why a file gives no configuration. -/
inductive FileFault where
  | unread
  | unfit (cause : ConfigFault)

def FileFault.message (path : String) : FileFault → String
  | .unread => "Failed to read config file: " ++ path
  | .unfit _ => "Failed to parse config file: " ++ path

/-- The configuration in a file, with overrides. A missing file is a configuration with nothing in
it, and is not overridden. -/
def Config.load (e : Environment) : FileState → Except FileFault Config
  | .missing => .ok {}
  | .unreadable => .error .unread
  | .holding contents =>
    match Text.Utf8.decode? contents with
    | none => .error .unread
    | some document =>
      match Config.ofToml document with
      | .error cause => .error (.unfit cause)
      | .ok c => .ok (c.override e)

end CardReader
