import CardReader.Bytes.Basic

namespace CardReader.Sha1

/-- Five words of chaining state. -/
structure State where
  a : UInt32
  b : UInt32
  c : UInt32
  d : UInt32
  e : UInt32
  deriving DecidableEq

/-- State before the first block. -/
def start : State := ⟨0x67452301, 0xEFCDAB89, 0x98BADCFE, 0x10325476, 0xC3D2E1F0⟩

def rotate (w : UInt32) (n : UInt32) : UInt32 := (w <<< n) ||| (w >>> (32 - n))

def wordOf (a b c d : UInt8) : UInt32 :=
  UInt32.ofNat (((a.toNat * 256 + b.toNat) * 256 + c.toNat) * 256 + d.toNat)

def bytesOf (w : UInt32) : Bytes :=
  [UInt8.ofNat (w.toNat / 0x1000000), UInt8.ofNat (w.toNat / 0x10000),
    UInt8.ofNat (w.toNat / 0x100), UInt8.ofNat w.toNat]

/-- Words of a byte string; up to three bytes at its end are left out. -/
def words : Bytes → List UInt32
  | a :: b :: c :: d :: rest => wordOf a b c d :: words rest
  | _ => []

/-- Adds `n` words to the message schedule, each from four earlier ones. -/
def extend : Nat → Array UInt32 → Array UInt32
  | 0, w => w
  | n + 1, w =>
    let back (i : Nat) := w.getD (w.size - i) 0
    extend n (w.push (rotate (back 3 ^^^ back 8 ^^^ back 14 ^^^ back 16) 1))

/-- Round function and constant of round `i`. -/
def mix (i : Nat) (b c d : UInt32) : UInt32 :=
  if i < 20 then ((b &&& c) ||| (~~~b &&& d)) + 0x5A827999
  else if i < 40 then (b ^^^ c ^^^ d) + 0x6ED9EBA1
  else if i < 60 then ((b &&& c) ||| (b &&& d) ||| (c &&& d)) + 0x8F1BBCDC
  else (b ^^^ c ^^^ d) + 0xCA62C1D6

/-- Runs the rounds from `i` on over the words of the schedule. -/
def rounds (i : Nat) : List UInt32 → State → State
  | [], s => s
  | w :: rest, s =>
    rounds (i + 1) rest ⟨rotate s.a 5 + mix i s.b s.c s.d + s.e + w, s.a, rotate s.b 30, s.c, s.d⟩

/-- Takes one block of 64 bytes in. -/
def compress (s : State) (block : Bytes) : State :=
  let t := rounds 0 (extend 64 (words block).toArray).toList s
  ⟨s.a + t.a, s.b + t.b, s.c + t.c, s.d + t.d, s.e + t.e⟩

/-- Fills the last block up: a one bit, zeros, and the bit length in eight bytes. -/
def pad (data : Bytes) : Bytes :=
  let bits := data.length * 8
  data ++ [0x80] ++ List.replicate ((119 - data.length % 64) % 64) 0 ++
    bytesOf (UInt32.ofNat (bits / 0x100000000)) ++ bytesOf (UInt32.ofNat bits)

/-- Takes in whole blocks, `n` of them. -/
def absorb : Nat → Bytes → State → State
  | 0, _, s => s
  | n + 1, data, s => absorb n (data.drop 64) (compress s (data.take 64))

/-- Digest of a byte string, twenty bytes. -/
def digest (data : Bytes) : Bytes :=
  let padded := pad data
  let s := absorb (padded.length / 64) padded start
  bytesOf s.a ++ bytesOf s.b ++ bytesOf s.c ++ bytesOf s.d ++ bytesOf s.e

/-- Key of the authentication code as one block: a longer key is replaced by its digest. -/
def keyBlock (key : Bytes) : Bytes :=
  let short := if 64 < key.length then digest key else key
  short ++ List.replicate (64 - short.length) 0

/-- Keyed authentication code of `data`, twenty bytes. -/
def mac (key data : Bytes) : Bytes :=
  let block := keyBlock key
  digest (block.map (· ^^^ 0x5c) ++ digest (block.map (· ^^^ 0x36) ++ data))

theorem length_digest (data : Bytes) : (digest data).length = 20 := rfl

theorem length_mac (key data : Bytes) : (mac key data).length = 20 := length_digest _

end CardReader.Sha1
