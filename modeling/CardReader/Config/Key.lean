import CardReader.Config.Basic
import CardReader.Fault.Config
import CardReader.Text.Blank
import CardReader.Text.Lossy

namespace CardReader

/-- The key of `expected` bytes that a text spells; nothing but blanks is no key. -/
def Key.decode (expected : Nat) (text : String) : Except KeyFault Bytes :=
  let digits := text.toList.filter fun c => !Text.isBlank c
  if digits.isEmpty then .ok []
  else
    match Hex.decode (Text.Utf8.encode digits) with
    | .error e => .error (.text e)
    | .ok bytes =>
      if bytes.length = expected then .ok bytes else .error (.length expected bytes.length)

def KeyName.decode (key : KeyName) (text : String) : Except ConfigError Bytes :=
  (Key.decode key.length text).mapError (KeyFault.of key)

namespace StidOptions

def hmacKeyBytes (o : StidOptions) : Except ConfigError Bytes := KeyName.hmac.decode o.hmacKey

def aesKeyBytes (o : StidOptions) : Except ConfigError Bytes := KeyName.aes.decode o.aesKey

end StidOptions

end CardReader
