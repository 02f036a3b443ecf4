import CardReader.Proofs.Osdp.Layout

namespace CardReader.Osdp

open Run

/-- A security block: its first byte tells how many bytes it has. -/
structure SecurityBlock where
  bytes : Bytes
  counted : bytes.head?.map UInt8.toNat = some bytes.length

namespace Peer

/-- How a device lets its frames be checked. -/
inductive Check where
  | crc
  | sum
  deriving DecidableEq

def Check.size : Check → Nat
  | .crc => 2
  | .sum => 1

def Check.trailer : Check → Bytes → Bytes
  | .crc, body => Bytes.littleEndian (Checksum.crc 0x1D0F body)
  | .sum, body => [Checksum.sum8 body]

def control (sequence : UInt8) (check : Check) (blocked : Bool) : UInt8 :=
  sequence + (if check = .crc then 0x04 else 0) + (if blocked then 0x08 else 0)

def blockBytes : Option SecurityBlock → Bytes
  | some block => block.bytes
  | none => []

/-- What a device says up to the check. -/
def body (address sequence : UInt8) (check : Check) (block : Option SecurityBlock) (code : UInt8)
    (data : Bytes) : Bytes :=
  let payload := blockBytes block ++ [code] ++ data
  [0x53, address] ++ Bytes.littleEndian (UInt16.ofNat (5 + payload.length + check.size)) ++
    [control sequence check block.isSome] ++ payload

def frame (address sequence : UInt8) (check : Check) (block : Option SecurityBlock) (code : UInt8)
    (data : Bytes) : Bytes :=
  body address sequence check block code data ++
    check.trailer (body address sequence check block code data)

def parts (address sequence : UInt8) (check : Check) (block : Option SecurityBlock) (code : UInt8)
    (data : Bytes) : Parts where
  address := address
  length := UInt16.ofNat (5 + (blockBytes block ++ [code] ++ data).length + check.size)
  control := control sequence check block.isSome
  block := blockBytes block
  code := code
  data := data
  trailer := check.trailer (body address sequence check block code data)

section Frame

variable (address sequence : UInt8) (check : Check) (block : Option SecurityBlock) (code : UInt8)
  (data : Bytes)

theorem body_parts : (parts address sequence check block code data).body =
    body address sequence check block code data := by
  simp [parts, Parts.body, Parts.payload, body, Bytes.littleEndian, som]

theorem bytes_parts : (parts address sequence check block code data).bytes =
    frame address sequence check block code data := by
  rw [Parts.bytes, body_parts]
  rfl

theorem length_frame : (frame address sequence check block code data).length =
    5 + (blockBytes block ++ [code] ++ data).length + check.size := by
  have htrailer (bytes : Bytes) : (check.trailer bytes).length = check.size := by
    cases check <;> rfl
  rw [frame, List.length_append, htrailer, body]
  simp [Bytes.littleEndian]
  omega

end Frame

section Control

variable {s : UInt8} (hs : s ≤ 3)
include hs

/-- Number and flags stand in different bits of the control byte. -/
theorem control_bits (check : Check) (blocked : Bool) : control s check blocked &&& 0x03 = s ∧
    (control s check blocked &&& crcBit ≠ 0 ↔ check = .crc) ∧
    (control s check blocked &&& blockBit ≠ 0 ↔ blocked = true) := by
  rcases sequence_cases hs with rfl | rfl | rfl | rfl <;> cases check <;> cases blocked <;> decide

theorem blocked_control (check : Check) (block : Option SecurityBlock) :
    Blocked (control s check block.isSome) (blockBytes block) := by
  obtain ⟨-, -, hblock⟩ := control_bits hs check block.isSome
  unfold Blocked
  cases block with
  | none =>
    rw [if_neg (mt hblock.mp Bool.false_ne_true)]
    rfl
  | some b =>
    rw [if_pos (hblock.mpr rfl)]
    obtain ⟨bytes, hcounted⟩ := b
    cases bytes with
    | nil => contradiction
    | cons n rest =>
      have hn : n.toNat = rest.length + 1 := Option.some.inj hcounted
      exact ⟨n, rest, rfl, by omega⟩

theorem trailerOf_control (check : Check) (blocked : Bool) (bytes : Bytes) :
    trailerOf (control s check blocked) bytes = check.trailer bytes := by
  obtain ⟨-, hcheck, -⟩ := control_bits hs check blocked
  unfold trailerOf
  cases check with
  | crc =>
    rw [if_pos (hcheck.mpr rfl)]
    rfl
  | sum =>
    rw [if_neg (mt hcheck.mp (by decide))]
    rfl

/-- A frame whose length fits into the length field has parts that fit together. -/
theorem fits_parts (own : UInt8) (check : Check) (block : Option SecurityBlock) (code : UInt8)
    (data : Bytes)
    (hlength : (frame (own ||| replyBit) s check block code data).length < 65536) :
    (parts (own ||| replyBit) s check block code data).Fits own where
  address_eq := rfl
  length_eq := by
    rw [bytes_parts, length_frame]
    rw [length_frame] at hlength
    exact Nat.mod_eq_of_lt hlength
  blocked := blocked_control hs check block
  trailer_eq := by
    rw [body_parts]
    exact (trailerOf_control hs check block.isSome _).symm

theorem openReply_parts (own : UInt8) (check : Check) (block : Option SecurityBlock) (code : UInt8)
    (data : Bytes)
    (hlength : (frame (own ||| replyBit) s check block code data).length < 65536) :
    openReply own (frame (own ||| replyBit) s check block code data) =
      .ok ⟨own ||| replyBit, s, code, data⟩ := by
  have hreply : (parts (own ||| replyBit) s check block code data).reply =
      ⟨own ||| replyBit, s, code, data⟩ := by
    rw [Parts.reply]
    exact congrArg (Reply.mk _ · _ _) (control_bits hs check block.isSome).1
  exact openReply_ok_iff.mpr ⟨_, fits_parts hs own check block code data hlength,
    bytes_parts .., hreply⟩

/-- A command is framed as if it were a reply without a security block. -/
theorem wire_eq_frame (address code : UInt8) (data : Bytes) :
    (Framer.mk address s).wire (code :: data) = frame address s .crc none code data := by
  have hcontrol : s ||| crcBit = control s .crc false := by
    rcases sequence_cases hs with rfl | rfl | rfl | rfl <;> decide
  have hbody : som :: address :: Bytes.littleEndian (UInt16.ofNat (5 + (code :: data).length + 2)) ++
      [s ||| crcBit] ++ code :: data = body address s .crc none code data := by
    rw [hcontrol]
    simp [body, blockBytes, Bytes.littleEndian, som, Check.size]
  unfold Framer.wire
  rw [hbody]
  rfl

end Control

/-- What a device frames and what a host makes of it: the frame is cut out of the bytes received,
whatever comes after it, and opens to what was put in. So does what a host frames at the address of
a reply; only a command that makes the frame too long is refused. -/
theorem openReply_frame (own s : UInt8) (hs : s ≤ 3) :
    (∀ (check : Check) (block : Option SecurityBlock) (code : UInt8) (data rest : Bytes),
      (frame (own ||| 0x80) s check block code data).length ≤ 1440 →
        Cut.ofHead .osdp (frame (own ||| 0x80) s check block code data ++ rest) =
            .frame (frame (own ||| 0x80) s check block code data).length ∧
          openReply own (frame (own ||| 0x80) s check block code data) =
            .ok ⟨own ||| 0x80, s, code, data⟩) ∧
      ∀ (code : UInt8) (data : Bytes),
        ((code :: data).length ≤ 1433 →
          ∃ wire, Framer.encode (code :: data) ⟨own ||| 0x80, s⟩ = .ok wire ⟨own ||| 0x80, s⟩ ∧
            openReply own wire = .ok ⟨own ||| 0x80, s, code, data⟩) ∧
        (1433 < (code :: data).length →
          Framer.encode (code :: data) ⟨own ||| 0x80, s⟩ =
            .error (.payloadTooLarge ((code :: data).length + 7) 1440) ⟨own ||| 0x80, s⟩) := by
  have hshort {n : Nat} (hn : n ≤ 1440) : n < 65536 := Nat.lt_of_le_of_lt hn (by decide)
  refine ⟨fun check block code data rest hlength => ⟨?_, ?_⟩, fun code data => ⟨?_, ?_⟩⟩
  · have hcut := (fits_parts hs own check block code data (hshort hlength)).ofHead_bytes
    rw [bytes_parts] at hcut
    exact hcut hlength rest
  · exact openReply_parts hs own check block code data (hshort hlength)
  · intro hlength
    have hsize : (frame (own ||| replyBit) s .crc none code data).length ≤ 1440 := by
      rw [List.length_cons] at hlength
      rw [length_frame]
      simp only [blockBytes, Check.size, List.length_append, List.length_cons, List.length_nil]
      omega
    refine ⟨frame (own ||| replyBit) s .crc none code data, ?_, ?_⟩
    · rw [Framer.encode_run, if_neg (List.cons_ne_nil code data),
        if_neg (by rw [osdpMost]; omega), wire_eq_frame hs]
      rfl
    · exact openReply_parts hs own .crc none code data (hshort hsize)
  · intro hlength
    rw [Framer.encode_run, if_neg (List.cons_ne_nil code data), if_pos (by rw [osdpMost]; omega),
      Nat.add_comm 5, Nat.add_assoc]
    rfl

/-- The block of a device that checks its frames under a session key. -/
def sessionBlock : SecurityBlock := ⟨[0x02, 0x16], rfl⟩

/-- A card reported behind a security block, with a sum for its check, and a command of the greatest
length and one byte more. -/
theorem openReply_frame_secured : (2 : UInt8) ≤ 3 ∧
    (frame (5 ||| 0x80) 2 .sum (some sessionBlock) 0x50 [0xAB, 0xCD]).length ≤ 1440 ∧
    Cut.ofHead .osdp (frame (5 ||| 0x80) 2 .sum (some sessionBlock) 0x50 [0xAB, 0xCD] ++ [0x53]) =
      .frame 11 ∧
    openReply 5 [0x53, 0x85, 0x0B, 0x00, 0x0A, 0x02, 0x16, 0x50, 0xAB, 0xCD, 0x33] =
      .ok ⟨0x85, 2, 0x50, [0xAB, 0xCD]⟩ ∧
    (∃ wire, Framer.encode (0x60 :: List.replicate 1432 0) ⟨0x85, 2⟩ = .ok wire ⟨0x85, 2⟩ ∧
      openReply 5 wire = .ok ⟨0x85, 2, 0x60, List.replicate 1432 0⟩) ∧
    Framer.encode (0x60 :: List.replicate 1433 0) ⟨0x85, 2⟩ =
      .error (.payloadTooLarge 1441 1440) ⟨0x85, 2⟩ := by
  have hlaw := openReply_frame 5 2 (by decide)
  have hcard := hlaw.1 .sum (some sessionBlock) 0x50 [0xAB, 0xCD] [0x53] (by decide)
  have hlongest := (hlaw.2 0x60 (List.replicate 1432 0)).1
  have hlonger := (hlaw.2 0x60 (List.replicate 1433 0)).2
  rw [List.length_cons, List.length_replicate] at hlongest hlonger
  exact ⟨by decide, by decide, hcard.1, hcard.2, hlongest (by decide), hlonger (by decide)⟩

end Peer

end CardReader.Osdp
