import CardReader.Crypto.Sha1
import CardReader.Fault.Session

namespace CardReader.Stid

/-- What a source of random blocks yields, read by read; `none` is a read that fails. -/
abbrev Nonces := List (Option Block)

/-- A random block that may serve as a nonce; a source that repeats one byte is broken. -/
def nonceOf : Option Block → Except SessionError Block
  | none => .error .insufficientEntropy
  | some b => if b.isUniform then .error .insufficientEntropy else .ok b

/-- The next nonce and what the source yields after it; an exhausted source fails. -/
def drawNonce : Nonces → Except SessionError Block × Nonces
  | [] => (.error .insufficientEntropy, [])
  | read :: rest => (nonceOf read, rest)

/-- Number of bytes of a signature. -/
def signatureLength : Nat := 10

def sign (key message : Bytes) : Bytes := (Sha1.mac key message).take signatureLength

/-- Whether `signature` is a front part of the code of a message; an empty one is not. -/
def verify (key message signature : Bytes) : Bool :=
  !signature.isEmpty && decide (signature.length ≤ 20) &&
    (Sha1.mac key message).take signature.length == signature

/-- Key under which the nonces of the signed-mode handshake travel. -/
def handshakeKey (userKey challenge : Bytes) : Block :=
  Block.ofPrefix (Sha1.mac userKey (userKey ++ challenge))

/-- Key of signatures, picked from the nonces of host and reader. -/
def signatureKey (host reader : Block) : Bytes :=
  [host.c0.b0, host.c0.b1, host.c0.b2, reader.c0.b0, reader.c0.b1,
    host.c3.b2, host.c3.b3, reader.c3.b1, reader.c3.b2, reader.c3.b3]

/-- Key of the cipher, picked from the nonces of reader and host. -/
def cipherKey (reader host : Block) : Block := ⟨reader.c0, host.c0, reader.c3, host.c3⟩

def ofCipher : Except Cbc.Fault α → Except SessionError α
  | .ok a => .ok a
  | .error e => .error (.cipher e)

theorem length_sign (key message : Bytes) : (sign key message).length = signatureLength := by
  simp [sign, signatureLength, Sha1.length_mac]

theorem verify_sign (key message : Bytes) : verify key message (sign key message) = true := by
  have h : (sign key message).isEmpty = false := by
    rw [List.isEmpty_eq_false_iff]
    intro e
    have := length_sign key message
    simp [e, signatureLength] at this
  simp only [verify, h, length_sign, signatureLength]
  simp [sign, signatureLength]

end CardReader.Stid
