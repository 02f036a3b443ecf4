import CardReader.Crypto.Cbc

namespace CardReader

/-- A secret of the session. -/
inductive Secret where
  | hmacKey
  | aesKey
  | handshakeKey
  | handshakeChallenge
  deriving DecidableEq

def Secret.name : Secret → String
  | .hmacKey => "HMAC"
  | .aesKey => "AES"
  | .handshakeKey => "handshake ephemeral"
  | .handshakeChallenge => "handshake challenge"

/-- Why a session cannot be set up or used. -/
inductive SessionError where
  | insufficientEntropy
  | nonceMismatch
  | badResponseLength (expected actual : Nat)
  | missing (secret : Secret)
  | handshakeTimeout
  | cipher (cause : Cbc.Fault)
  deriving DecidableEq

def SessionError.message : SessionError → String
  | .insufficientEntropy => "insufficient entropy source"
  | .nonceMismatch => "cannot negotiate the session: device nonce does not match ours"
  | .badResponseLength expected actual =>
    "bad handshake response length: expected " ++ toString expected ++ " bytes, got " ++
      toString actual ++ " bytes"
  | .missing secret => "no " ++ secret.name ++ " session key, authenticate first"
  | .handshakeTimeout => "handshake timed out"
  | .cipher cause => "cipher error: " ++ cause.message

end CardReader
