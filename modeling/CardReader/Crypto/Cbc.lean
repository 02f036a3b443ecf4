import CardReader.Crypto.Aes

namespace CardReader.Cbc

/-- Why a chained text cannot be formed or opened. -/
inductive Fault where
  | keyOrInitialLength
  | partialBlock (length : Nat)
  deriving DecidableEq

def Fault.message : Fault → String
  | .keyOrInitialLength => "Invalid Length"
  | .partialBlock n => "ciphertext length " ++ toString n ++ " is not a multiple of 16"

/-- Enciphers a chain of blocks that starts from `before`: each block is joined with the cipher text
before it. -/
def encryptBlocks (keys : Aes.Schedule) (before : Block) : List Block → List Block
  | [] => []
  | p :: rest =>
    let c := Aes.encrypt keys (p.xor before)
    c :: encryptBlocks keys c rest

def decryptBlocks (keys : Aes.Schedule) (before : Block) : List Block → List Block
  | [] => []
  | c :: rest => (Aes.decrypt keys c).xor before :: decryptBlocks keys c rest

/-- Enciphers `plain`, filled up with zeros to whole blocks. -/
def encipher (key initial : Block) (plain : Bytes) : Bytes :=
  Block.join (encryptBlocks (Aes.Schedule.ofKey key) initial (Block.split plain))

def decipher (key initial : Block) (cipherText : Bytes) : Bytes :=
  Block.join (decryptBlocks (Aes.Schedule.ofKey key) initial (Block.split cipherText))

/-- Enciphers under a key and an initial value given as bytes. -/
def encrypt (key initial plain : Bytes) : Except Fault Bytes :=
  match Block.ofList? key, Block.ofList? initial with
  | some k, some i => .ok (encipher k i plain)
  | _, _ => .error .keyOrInitialLength

def decrypt (key initial cipherText : Bytes) : Except Fault Bytes :=
  if cipherText.length % Block.size ≠ 0 then .error (.partialBlock cipherText.length)
  else
    match Block.ofList? key, Block.ofList? initial with
    | some k, some i => .ok (decipher k i cipherText)
    | _, _ => .error .keyOrInitialLength

/-- The last sixteen bytes, the value that the next text is chained to. -/
def lastBlock? (data : Bytes) : Option Block :=
  if data.length < Block.size then none
  else Block.ofList? (data.drop (data.length - Block.size))

end CardReader.Cbc
