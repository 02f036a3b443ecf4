import CardReader.Config.Basic
import CardReader.Text.Blank
import CardReader.Text.Number

namespace CardReader

/-- Values of the variables that are set. -/
structure Environment where
  logEnabled : Option String := none
  dataTimeout : Option String := none
  deriving DecidableEq

namespace Environment

/-- Whether a text switches events on; all but three texts do. -/
def isOn (text : String) : Bool :=
  let word := String.ofList (Text.lowered (Text.trim text.toList))
  ["0", "false", "off"].all (· != word)

/-- The time that a text gives; zero is none. -/
def timeout? (text : String) : Option Nat :=
  match Text.Number.parse (Text.trim text.toList) with
  | .ok ms => if 0 < ms then some ms else none
  | .error _ => none

/-- Settings with the overrides; a value that means nothing is passed over. -/
def override (e : Environment) (s : Settings) : Settings :=
  { s with
    logEnabled := (e.logEnabled.map isOn).getD s.logEnabled
    dataTimeout := (e.dataTimeout.bind timeout?).getD s.dataTimeout }

end Environment

def Config.override (e : Environment) (c : Config) : Config :=
  { c with settings := e.override c.settings }

end CardReader
