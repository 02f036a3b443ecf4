import CardReader.Config.Key

namespace CardReader

/-- Fails with a fault if it is there. -/
def Invalid.unless (sound : Bool) (fault : Invalid) : Except ConfigError Unit :=
  if sound then .ok () else .error (.invalid fault)

namespace ReaderConfig

def checkEndpoint (c : ReaderConfig) : Except ConfigError Unit := do
  match c.endpoint with
  | .tcp host port =>
    Invalid.unless (!host.isEmpty) .noHost
    Invalid.unless (port != 0) .zeroPort
  | .serial _ baud =>
    Invalid.unless (c.family != .rpleth) .rplethOnSerial
    Invalid.unless (baud != some 0) .zeroBaud

def checkOptions (c : ReaderConfig) : Except ConfigError Unit := do
  match c.family with
  | .stidStr =>
    Invalid.unless (c.stid.address ≤ 127) (.configuredAddress c.stid.address)
    Invalid.unless (!c.stid.mode.isReserved) .reservedMode
    let _ ← c.stid.hmacKeyBytes
    let _ ← c.stid.aesKeyBytes
  | .osdp => Invalid.unless (c.osdp.address ≤ 0x7E) (.osdpAddress c.osdp.address)
  | .rpleth =>
    Invalid.unless (c.rpleth.csnLength.toNat + c.rpleth.csnOffset.toNat ≤ 64) .csnTooWide
  | .axess | .stidPrg | .promag => return ()

def validate (c : ReaderConfig) : Except ConfigError Unit := do
  c.checkEndpoint
  c.checkOptions

end ReaderConfig

/-- Checks reader by reader; the first fault counts. Options of other families are not looked at. -/
def Config.validate (c : Config) : Except ConfigError Unit := c.readers.forM ReaderConfig.validate

end CardReader
