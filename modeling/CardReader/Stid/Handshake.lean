import CardReader.Stid.Secret

namespace CardReader.Stid

def factoryHmacKey : Bytes := [0xA0, 0x87, 0x75, 0x4B, 0x75, 0x47, 0x48, 0x10, 0x94, 0xBE]

def factoryAesKey : Bytes :=
  [0xE7, 0x4A, 0x54, 0x0F, 0xA0, 0x7C, 0x4D, 0xB1, 0xB4, 0x64, 0x21, 0x12, 0x6D, 0xF7, 0xAD, 0x36]

/-- Request for a challenge of the signed-mode handshake. -/
def hmacRequest : Bytes := [0x01]

/-- Request for a challenge of the ciphered-mode handshake. -/
def aesRequest : Bytes := [0x02]

/-- Signed-mode handshake: user key, host nonce, and the key of the nonces once challenged. It
answers the reader's challenge in one step, and in a second one checks that the reader knows the
host's nonce. -/
structure HmacHandshake where
  userKey : Bytes
  nonce : Block
  key : Option Block := none

namespace HmacHandshake

def start (userKey : Bytes) (nonce : Block) : HmacHandshake :=
  ⟨if userKey.isEmpty then factoryHmacKey else userKey, nonce, none⟩

/-- Answers a challenge with challenge and host nonce, enciphered. -/
def respond (h : HmacHandshake) (challenge : Bytes) : Bytes × HmacHandshake :=
  let key := handshakeKey h.userKey challenge
  (Cbc.encipher key .zero (challenge ++ h.nonce.toList), { h with key := some key })

/-- Checks the reader's reply, host nonce and reader nonce enciphered, and derives the key. -/
def finish (h : HmacHandshake) (reply : Bytes) : Except SessionError Bytes := do
  let some key := h.key | throw (.missing .handshakeKey)
  let plain ← ofCipher (Cbc.decrypt key.toList Block.zero.toList reply)
  if plain.length ≠ 2 * Block.size then
    throw (.badResponseLength (2 * Block.size) plain.length)
  if Block.ofPrefix plain ≠ h.nonce then throw .nonceMismatch
  return signatureKey h.nonce (Block.ofPrefix (plain.drop Block.size))

end HmacHandshake

/-- Ciphered-mode handshake: user key, host nonce, and the reader's nonce once challenged. -/
structure AesHandshake where
  userKey : Bytes
  nonce : Block
  challenge : Option Block := none

namespace AesHandshake

def start (userKey : Bytes) (nonce : Block) : AesHandshake :=
  ⟨if userKey.isEmpty then factoryAesKey else userKey, nonce, none⟩

/-- Answers a challenge, the reader's nonce enciphered, with both nonces enciphered. -/
def respond (h : AesHandshake) (challenge : Bytes) : Except SessionError (Bytes × AesHandshake) := do
  let plain ← ofCipher (Cbc.decrypt h.userKey Block.zero.toList challenge)
  let some reader := Block.ofList? plain | throw (.badResponseLength Block.size plain.length)
  let request ←
    ofCipher (Cbc.encrypt h.userKey Block.zero.toList (reader.toList ++ h.nonce.toList))
  return (request, { h with challenge := some reader })

/-- Checks the reader's reply, the host nonce enciphered, and derives the key. -/
def finish (h : AesHandshake) (reply : Bytes) : Except SessionError Block := do
  let some reader := h.challenge | throw (.missing .handshakeChallenge)
  let plain ← ofCipher (Cbc.decrypt h.userKey Block.zero.toList reply)
  if plain ≠ h.nonce.toList then throw .nonceMismatch
  return cipherKey reader h.nonce

end AesHandshake

end CardReader.Stid
