import CardReader.Family
import CardReader.Settings
import CardReader.Stid.Mode

namespace CardReader

/-- Where a reader is attached; a serial line without a port is to be found. -/
inductive Endpoint where
  | serial (port : Option String) (baud : Option UInt32)
  | tcp (host : String) (port : UInt16)
  deriving DecidableEq

/-- Options of a STid STR reader; keys are hexadecimal digits, an empty one is the factory key. -/
structure StidOptions where
  mode : Stid.Mode := .plain
  wiring : Stid.Wiring := .rs232
  address : UInt8 := 0
  hmacKey : String := ""
  aesKey : String := ""
  deriving DecidableEq

/-- Options of a Rpleth box: place of the serial number in a frame, in bits. -/
structure RplethOptions where
  csnLength : UInt32 := 0
  csnOffset : UInt32 := 0
  deriving DecidableEq

/-- Options of an OSDP device. -/
structure OsdpOptions where
  address : UInt8 := 0
  deriving DecidableEq

/-- A configured reader. -/
structure ReaderConfig where
  family : Family
  endpoint : Endpoint := .serial none none
  stid : StidOptions := {}
  rpleth : RplethOptions := {}
  osdp : OsdpOptions := {}
  deriving DecidableEq

/-- A whole configuration. -/
structure Config where
  settings : Settings := {}
  readers : List ReaderConfig := []
  deriving DecidableEq

end CardReader
