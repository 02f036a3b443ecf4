import CardReader.Proofs.Crypto.Cbc
import CardReader.Stid.Framer
import Mathlib.Tactic.Common

namespace CardReader.Stid

namespace Peer

def control (f : Framer) : UInt8 :=
  match f.wiring with
  | .rs232 => 0
  | .rs485 => 1 + 2 * f.address

def checked (f : Framer) (message : Bytes) : Bytes :=
  Bytes.bigEndian (UInt16.ofNat message.length) ++ [control f, f.mode.bits] ++ message

/-- A message in a frame for the line and the mode of a host. -/
def frame (f : Framer) (message : Bytes) : Bytes :=
  [0x02] ++ checked f message ++ Bytes.bigEndian (Checksum.crc 0xFFFF (checked f message))

theorem control_eq (f : Framer) : f.control = control f := by
  have h : ∀ a : BitVec 8, (1 : UInt8) ||| (UInt8.ofBitVec a <<< 1) = 1 + 2 * UInt8.ofBitVec a := by
    decide +kernel
  unfold Framer.control control
  cases f.wiring with
  | rs232 => rfl
  | rs485 => exact h f.address.toBitVec

theorem enframe_eq (f : Framer) (message : Bytes) :
    Framer.enframe f.control f.mode message = frame f message := by
  rw [control_eq]
  rfl

theorem frame_eq (f : Framer) (message : Bytes) :
    frame f message = stx :: Bytes.high (UInt16.ofNat message.length) ::
      Bytes.low (UInt16.ofNat message.length) :: control f :: f.mode.bits ::
        (message ++ Bytes.bigEndian (Checksum.crc 0xFFFF (checked f message))) := by
  simp [frame, checked, Bytes.bigEndian, stx]

theorem length_frame (f : Framer) (message : Bytes) :
    (frame f message).length = message.length + 7 := by
  simp [frame_eq, Bytes.bigEndian]

theorem word_length (message : Bytes) (h : message.length ≤ 65535) :
    (Bytes.word (Bytes.high (UInt16.ofNat message.length))
      (Bytes.low (UInt16.ofNat message.length))).toNat = message.length := by
  rw [Bytes.word_high_low, UInt16.toNat_ofNat', Nat.mod_eq_of_lt (by omega)]

theorem ofControl_control (f : Framer) : Wiring.ofControl (control f) = f.wiring := by
  have z : Wiring.ofControl 0 = .rs232 := by decide
  have h : ∀ a : BitVec 8, Wiring.ofControl (1 + 2 * UInt8.ofBitVec a) = .rs485 := by
    decide +kernel
  unfold control
  cases f.wiring with
  | rs232 => exact z
  | rs485 => exact h f.address.toBitVec

theorem address_control (f : Framer) (hw : f.wiring = .rs485) (ha : f.address ≤ 127) :
    (control f &&& 0xFE) >>> 1 = f.address := by
  have h : ∀ a : BitVec 8, UInt8.ofBitVec a ≤ 127 →
      ((1 + 2 * UInt8.ofBitVec a) &&& 0xFE) >>> 1 = UInt8.ofBitVec a := by
    decide +kernel
  rw [control, hw]
  exact h f.address.toBitVec ha

theorem word_bigEndian (message : Bytes) (w : UInt16) :
    Bytes.word ((message ++ Bytes.bigEndian w).getD message.length 0)
      ((message ++ Bytes.bigEndian w).getD (message.length + 1) 0) = w := by
  have h : ((message ++ Bytes.bigEndian w).getD message.length 0) = Bytes.high w := by
    simp [List.getD_eq_getElem?_getD, Bytes.bigEndian]
  have l : ((message ++ Bytes.bigEndian w).getD (message.length + 1) 0) = Bytes.low w := by
    simp [List.getD_eq_getElem?_getD, Bytes.bigEndian]
  rw [h, l, Bytes.word_high_low]

/-- The host takes the message out of a frame of its line and mode. -/
theorem deframe_frame (f : Framer) (message : Bytes) (hm : message.length ≤ 65535)
    (ha : f.wiring = .rs485 → f.address ≤ 127) : f.deframe (frame f message) = .ok message := by
  have hs := word_length message hm
  have hl := length_frame f message
  have hc : checked f message = Bytes.high (UInt16.ofNat message.length) ::
      Bytes.low (UInt16.ofNat message.length) :: control f :: f.mode.bits :: message := rfl
  have hd : ¬ (f.wiring = .rs485 ∧ (control f &&& 0xFE) >>> 1 ≠ f.address) :=
    fun h => h.2 (address_control f h.1 (ha h.1))
  rw [frame_eq] at hl ⊢
  simp only [Framer.deframe, hs, hl, ofControl_control, overhead, List.take_left, word_bigEndian,
    Checksum.seedStid, ← hc]
  rw [if_neg (by omega), if_neg (by simp), if_neg (by omega), if_neg (by simp), if_neg hd,
    if_neg (by simp), if_neg (by simp)]
  rfl

/-- A frame is found with its exact length, whatever comes after it. -/
theorem ofHead_frame (f : Framer) (message rest : Bytes) (hm : message.length ≤ 65535) :
    Cut.ofHead .stidStr (frame f message ++ rest) = .frame (frame f message).length := by
  have hs := word_length message hm
  have hl := length_frame f message
  have h7 : Cut.reaches 7 (frame f message ++ rest) = true := by
    rw [Cut.reaches_iff, List.length_append, hl]
    omega
  have hw : Cut.reaches (message.length + 7) (frame f message ++ rest) = true := by
    rw [Cut.reaches_iff, List.length_append, hl]
    omega
  rw [hl]
  rw [frame_eq] at h7 hw ⊢
  simp only [List.cons_append] at h7 hw ⊢
  simp only [Cut.ofHead, Cut.stidStr, Cut.whole, List.isEmpty_cons, List.head?_cons, h7,
    List.getD_cons_succ, List.getD_cons_zero, hs, hw]
  simp

def conceal (f : Framer) (aesKey initial : Block) (message : Bytes) : Bytes :=
  if f.mode.isCiphered then Cbc.encipher aesKey initial message ++ initial.toList else message

def countersign (f : Framer) (hmacKey message : Bytes) : Bytes :=
  if f.mode.isSigned then message ++ (Sha1.mac hmacKey message).take 10 else message

/-- A message as the mode of a host protects it: enciphered, then signed. -/
def protect (f : Framer) (hmacKey : Bytes) (aesKey initial : Block) (message : Bytes) : Bytes :=
  countersign f hmacKey (conceal f aesKey initial message)

/-- Size of a message of `length` bytes under the protection of a host's mode. -/
def protectedSize (f : Framer) (length : Nat) : Nat :=
  (if f.mode.isCiphered then (length + 15) / 16 * 16 + 16 else length) +
    if f.mode.isSigned then 10 else 0

theorem length_protect (f : Framer) (hmacKey : Bytes) (aesKey initial : Block) (message : Bytes) :
    (protect f hmacKey aesKey initial message).length = protectedSize f message.length := by
  have hc : (conceal f aesKey initial message).length =
      if f.mode.isCiphered then (message.length + 15) / 16 * 16 + 16 else message.length := by
    by_cases h : f.mode.isCiphered
    · rw [conceal, if_pos h, if_pos h, List.length_append, Cbc.length_encipher,
        Block.length_toList, Block.size]
    · rw [conceal, if_neg h, if_neg h]
  rw [protect, countersign, protectedSize, ← hc]
  by_cases h : f.mode.isSigned
  · rw [if_pos h, if_pos h, List.length_append, List.length_take, Sha1.length_mac]
    rfl
  · rw [if_neg h, if_neg h, Nat.add_zero]

theorem le_protectedSize (f : Framer) (length : Nat) : length ≤ protectedSize f length := by
  unfold protectedSize
  split_ifs <;> omega

def chain (f : Framer) (aesKey initial : Block) (message : Bytes) : Option Block :=
  if f.mode.isCiphered then Cbc.lastBlock? (Cbc.encipher aesKey initial message) else f.chained

theorem chain_ciphered {f : Framer} (hm : f.mode.isCiphered) (aesKey initial : Block)
    (message : Bytes) (hp : message ≠ []) :
    (chain f aesKey initial message).map Block.toList =
      some ((Cbc.encipher aesKey initial message).drop
        ((Cbc.encipher aesKey initial message).length - 16)) := by
  obtain ⟨last, hlast, htail⟩ := Cbc.lastBlock?_encipher aesKey initial message hp
  rw [chain, if_pos hm, hlast, Option.map_some, htail, Block.size]

theorem chain_plain {f : Framer} (hm : ¬ f.mode.isCiphered) (aesKey initial : Block)
    (message : Bytes) : chain f aesKey initial message = f.chained := by
  rw [chain, if_neg hm]

/-- Message of an answer to a command. -/
def answer (type : CommandType) (code : UInt16) (data : Bytes) (status : UInt8) : Bytes :=
  Bytes.bigEndian code ++ Bytes.bigEndian (UInt16.ofNat data.length) ++ data ++ [type.code, status]

def request (type : CommandType) (code : UInt16) (data : Bytes) : Bytes :=
  [0x00, type.code] ++ Bytes.bigEndian code ++ [0xAA, 0x55] ++
    Bytes.bigEndian (UInt16.ofNat data.length) ++ data

end Peer

theorem Keys.hmacKey_eq {k : Keys} {key : Bytes} (h : k.hmac = some key) :
    k.hmacKey = .ok key := by
  rw [Keys.hmacKey, h]

theorem Keys.aesKey_eq {k : Keys} {key : Block} (h : k.aes = some key) : k.aesKey = .ok key := by
  rw [Keys.aesKey, h]

/-- A host at an address that the line carries, with the keys that its mode needs. -/
structure Framer.Armed (f : Framer) (hmacKey : Bytes) (aesKey : Block) : Prop where
  address_le : f.wiring = .rs485 → f.address ≤ 127
  hmac_held : f.mode.isSigned → f.keys.hmac = some hmacKey
  aes_held : f.mode.isCiphered → f.keys.aes = some aesKey

/-- A host on a shared line whose messages are enciphered and signed. -/
def Framer.guarded : Framer where
  wiring := .rs485
  address := 5
  mode := Mode.signed.union .ciphered
  keys := ⟨some [0x0A, 0x0B], some .zero⟩
  session := .authenticated
  chained := some ⟨⟨1, 2, 3, 4⟩, ⟨5, 6, 7, 8⟩, ⟨9, 10, 11, 12⟩, ⟨13, 14, 15, 16⟩⟩
  lastCode := 0x0008

theorem Framer.armed_guarded : Armed guarded [0x0A, 0x0B] .zero :=
  ⟨fun _ => by decide, fun _ => rfl, fun _ => rfl⟩

end CardReader.Stid
