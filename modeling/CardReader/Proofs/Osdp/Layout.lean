import CardReader.Osdp.Framer
import CardReader.Proofs.Bytes.Cursor
import Mathlib.Tactic.Common

namespace CardReader.Osdp

open Run

def trailerOf (control : UInt8) (body : Bytes) : Bytes :=
  if control &&& crcBit ≠ 0 then Bytes.littleEndian (Checksum.crc Checksum.seedOsdp body)
  else [Checksum.sum8 body]

/-- What stands between a control byte and the code: nothing, or a security block, which starts with
its own length. A block is never shorter than that byte. -/
def Blocked (control : UInt8) (block : Bytes) : Prop :=
  if control &&& blockBit ≠ 0 then ∃ n rest, block = n :: rest ∧ rest.length = n.toNat - 1
  else block = []

/-- The parts of a reply, in the order they are sent. -/
structure Parts where
  address : UInt8
  length : UInt16
  control : UInt8
  block : Bytes
  code : UInt8
  data : Bytes
  trailer : Bytes

namespace Parts

def payload (p : Parts) : Bytes := p.block ++ p.code :: p.data

/-- What the trailer is the check of. -/
def body (p : Parts) : Bytes :=
  som :: p.address :: Bytes.low p.length :: Bytes.high p.length :: p.control :: p.payload

def bytes (p : Parts) : Bytes := p.body ++ p.trailer

def reply (p : Parts) : Reply := ⟨p.address, p.control &&& 0x03, p.code, p.data⟩

/-- The parts fit together to a reply of the device at `own`. -/
structure Fits (p : Parts) (own : UInt8) : Prop where
  address_eq : p.address = own ||| replyBit
  length_eq : p.length.toNat = p.bytes.length
  blocked : Blocked p.control p.block
  trailer_eq : p.trailer = trailerOf p.control p.body

end Parts

/-- A head is read if it starts with the marker and gives the length of the whole frame. -/
theorem readHead_ok_iff {size : Nat} {frame : Bytes} {address control : UInt8} :
    Cursor.run (readHead size) frame = .ok (address, control) ↔ ∃ lo hi rest,
      frame = som :: address :: lo :: hi :: control :: rest ∧ (Bytes.word hi lo).toNat = size := by
  constructor
  · intro h
    obtain ⟨c, h⟩ := Cursor.run_eq_ok_iff.mp h
    obtain ⟨marker, c₁, hmarker, h⟩ := of_bind_ok h
    obtain ⟨rest, rfl, rfl⟩ := Cursor.byte_ok hmarker
    obtain ⟨hsom, h⟩ := of_guarded_ok h
    obtain ⟨address', c₂, haddress, h⟩ := of_bind_ok h
    obtain ⟨rest, rfl, rfl⟩ := Cursor.byte_ok haddress
    obtain ⟨declared, c₃, hdeclared, h⟩ := of_bind_ok h
    obtain ⟨lo, hi, rest, rfl, rfl, rfl⟩ := Cursor.littleEndian_ok hdeclared
    obtain ⟨hsize, h⟩ := of_guarded_ok h
    obtain ⟨control', c₄, hcontrol, h⟩ := of_bind_ok h
    obtain ⟨rest, rfl, rfl⟩ := Cursor.byte_ok hcontrol
    injection h with hhead _
    obtain ⟨rfl, rfl⟩ := Prod.mk.inj hhead
    obtain rfl := not_not.mp hsom
    exact ⟨lo, hi, rest, rfl, not_not.mp hsize⟩
  · rintro ⟨lo, hi, rest, rfl, hsize⟩
    refine Cursor.run_eq_ok_iff.mpr ⟨⟨5, rest⟩, ?_⟩
    rw [readHead, Cursor.start, bind_ok (Cursor.byte_cons 0 som _), if_neg (not_not_intro rfl)]
    dsimp only
    rw [bind_ok (Cursor.byte_cons _ address _), bind_ok (Cursor.littleEndian_cons _ lo hi _),
      if_neg (not_not_intro hsize), bind_ok (Cursor.byte_cons _ control rest)]
    rfl

/-- Code and data, once the block has been read. -/
theorem readCode_ok_iff {position : Nat} {rest data : Bytes} {code : UInt8} {c : Cursor} :
    (do
      let code ← Cursor.byte
      return (code, ← Cursor.remainder) : Cursor.Read (UInt8 × Bytes)) ⟨position, rest⟩ =
        .ok (code, data) c ↔
      rest = code :: data ∧ c = ⟨position + 1 + data.length, []⟩ := by
  constructor
  · intro h
    obtain ⟨code', c₁, hcode, h⟩ := of_bind_ok h
    obtain ⟨data', rfl, rfl⟩ := Cursor.byte_ok hcode
    injection h with hpair hc
    obtain ⟨rfl, rfl⟩ := Prod.mk.inj hpair
    exact ⟨rfl, hc.symm⟩
  · rintro ⟨rfl, rfl⟩
    rw [bind_ok (Cursor.byte_cons _ code data)]
    rfl

/-- Whatever the control byte blocks off, one byte of code and the data follow it. -/
theorem readTail_ok_iff {control code : UInt8} {payload data : Bytes} :
    Cursor.run (readTail control) payload = .ok (code, data) ↔
      ∃ block, Blocked control block ∧ payload = block ++ code :: data := by
  rw [Cursor.run_eq_ok_iff]
  unfold readTail Blocked
  by_cases hblock : control &&& blockBit ≠ 0
  · simp only [if_pos hblock]
    constructor
    · rintro ⟨c, h⟩
      obtain ⟨n, c₁, hn, h⟩ := of_bind_ok h
      obtain ⟨rest, rfl, rfl⟩ := Cursor.byte_ok hn
      obtain ⟨block, c₂, htake, h⟩ := of_bind_ok h
      obtain ⟨rest, rfl, hlength, rfl⟩ := Cursor.take_ok htake
      obtain ⟨rfl, -⟩ := readCode_ok_iff.mp h
      exact ⟨n :: block, ⟨n, block, rfl, hlength⟩, rfl⟩
    · rintro ⟨_, ⟨n, block, rfl, hlength⟩, rfl⟩
      have htake := Cursor.take_append 1 block (code :: data)
      rw [hlength] at htake
      rw [List.cons_append, Cursor.start, bind_ok (Cursor.byte_cons 0 n _), bind_ok htake]
      exact ⟨_, readCode_ok_iff.mpr ⟨rfl, rfl⟩⟩
  · simp only [if_neg hblock]
    constructor
    · rintro ⟨c, h⟩
      exact ⟨[], rfl, (readCode_ok_iff.mp h).1⟩
    · rintro ⟨_, rfl, rfl⟩
      exact ⟨_, readCode_ok_iff.mpr ⟨rfl, rfl⟩⟩

def trailerSize (control : UInt8) : Nat := if control &&& crcBit ≠ 0 then 2 else 1

theorem length_trailerOf (control : UInt8) (body : Bytes) :
    (trailerOf control body).length = trailerSize control := by
  unfold trailerOf trailerSize
  split
  · rfl
  · rfl

theorem littleEndian_eq_iff {w : UInt16} {lo hi : UInt8} :
    [lo, hi] = Bytes.littleEndian w ↔ w = Bytes.word hi lo := by
  constructor
  · intro h
    obtain ⟨rfl, hhigh⟩ := List.cons.inj h
    rw [(List.cons.inj hhigh).1, Bytes.word_high_low]
  · rintro rfl
    rw [Bytes.littleEndian, Bytes.low_word, Bytes.high_word]

/-- Of all trailers of its size only the one computed from the body passes. -/
theorem checkTrailer_ok_iff {control : UInt8} {body trailer : Bytes}
    (hsize : trailer.length = trailerSize control) :
    checkTrailer body trailer = .ok () ↔ trailer = trailerOf control body := by
  have hpassed {c : Prop} [Decidable c] (e : FrameError) :
      (if c then .error e else .ok () : Except FrameError Unit) = .ok () ↔ ¬ c := by
    by_cases hc : c
    · simp [hc]
    · simp [hc]
  unfold trailerSize at hsize
  unfold trailerOf
  by_cases hcrc : control &&& crcBit ≠ 0
  · rw [if_pos hcrc] at hsize ⊢
    obtain ⟨lo, last, rfl⟩ := List.exists_cons_of_length_eq_add_one hsize
    obtain ⟨hi, rfl⟩ := List.length_eq_one_iff.mp (Nat.succ.inj hsize)
    rw [littleEndian_eq_iff]
    exact (hpassed _).trans not_not
  · rw [if_neg hcrc] at hsize ⊢
    obtain ⟨sum, rfl⟩ := List.length_eq_one_iff.mp hsize
    refine ((hpassed _).trans not_not).trans ⟨fun h => ?_, fun h => ?_⟩
    · exact congrArg ([·]) h.symm
    · exact (List.cons.inj h).1.symm

/-- Head and length are right: what is left to look at when a reply is opened. -/
theorem openReply_split {own address lo hi control : UInt8} {payload trailer : Bytes}
    (hlength : (Bytes.word hi lo).toNat = payload.length + trailer.length + 5)
    (htrailer : trailer.length = trailerSize control) (hpayload : payload ≠ []) :
    openReply own (som :: address :: lo :: hi :: control :: (payload ++ trailer)) = (do
      checkTrailer (som :: address :: lo :: hi :: control :: payload) trailer
      if address ≠ own ||| replyBit then
        throw (.unexpectedAnswer (.replyAddress address (own ||| replyBit)))
      let (code, data) ← Cursor.run (readTail control) payload
      return ⟨address, control &&& 0x03, code, data⟩) := by
  have hpos : 0 < payload.length := List.length_pos_iff.mpr hpayload
  have hsize : (som :: address :: lo :: hi :: control :: (payload ++ trailer)).length =
      payload.length + trailer.length + 5 := by simp
  have hhead : Cursor.run (readHead (payload.length + trailer.length + 5))
      (som :: address :: lo :: hi :: control :: (payload ++ trailer)) = .ok (address, control) :=
    readHead_ok_iff.mpr ⟨lo, hi, payload ++ trailer, rfl, hlength⟩
  have hcut : payload.length + trailer.length + 5 - trailer.length = payload.length + 5 := by omega
  have hlong : ¬payload.length + trailer.length + 5 < 6 + trailer.length := by omega
  unfold openReply
  rw [hsize, hhead, ok_bind]
  dsimp only
  rw [trailerSize] at htrailer
  rw [← htrailer, if_neg hlong, hcut]
  simp only [List.take_succ_cons, List.take_left, List.drop_succ_cons, List.drop_left,
    List.drop_zero]

theorem Parts.bytes_eq (p : Parts) : p.bytes = som :: p.address :: Bytes.low p.length ::
    Bytes.high p.length :: p.control :: (p.payload ++ p.trailer) := rfl

theorem Parts.payload_ne_nil (p : Parts) : p.payload ≠ [] := by simp [payload]

/-- An opened frame has room for a code between its control byte and its trailer. -/
theorem exists_split {own : UInt8} {frame : Bytes} {reply : Reply}
    (h : openReply own frame = .ok reply) : ∃ address lo hi control payload trailer,
      frame = som :: address :: lo :: hi :: control :: (payload ++ trailer) ∧
      (Bytes.word hi lo).toNat = payload.length + trailer.length + 5 ∧
      trailer.length = trailerSize control ∧ payload ≠ [] := by
  cases hhead : Cursor.run (readHead frame.length) frame with
  | error e =>
    rw [openReply, hhead] at h
    contradiction
  | ok head =>
    obtain ⟨address, control⟩ := head
    obtain ⟨lo, hi, rest, rfl, hlength⟩ := readHead_ok_iff.mp hhead
    unfold openReply at h
    rw [hhead, ok_bind] at h
    have hlong : trailerSize control < rest.length := by
      have hshort := (guarded_ok h).1
      simp only [List.length_cons] at hshort
      unfold trailerSize
      omega
    refine ⟨address, lo, hi, control, rest.take (rest.length - trailerSize control),
      rest.drop (rest.length - trailerSize control), ?_, ?_, ?_, ?_⟩
    · rw [List.take_append_drop]
    · rw [hlength, ← List.length_append, List.take_append_drop]
      rfl
    · rw [List.length_drop]
      omega
    · rw [← List.length_pos_iff, List.length_take]
      omega

/-- The host opens the frames whose parts fit together, and no others. -/
theorem openReply_ok_iff {own : UInt8} {frame : Bytes} {reply : Reply} :
    openReply own frame = .ok reply ↔
      ∃ p : Parts, p.Fits own ∧ p.bytes = frame ∧ p.reply = reply := by
  constructor
  · intro h
    obtain ⟨address, lo, hi, control, payload, trailer, rfl, hlength, hsize, hpayload⟩ :=
      exists_split h
    rw [openReply_split hlength hsize hpayload] at h
    cases hchecked : checkTrailer (som :: address :: lo :: hi :: control :: payload) trailer with
    | error e =>
      rw [hchecked] at h
      contradiction
    | ok checked =>
      rw [hchecked, ok_bind] at h
      obtain ⟨haddress, hopened⟩ := guarded_ok h
      cases hread : Cursor.run (readTail control) payload with
      | error e =>
        rw [hread] at hopened
        contradiction
      | ok tail =>
        obtain ⟨code, data⟩ := tail
        rw [hread] at hopened
        obtain ⟨block, hblocked, rfl⟩ := readTail_ok_iff.mp hread
        refine ⟨⟨address, Bytes.word hi lo, control, block, code, data, trailer⟩,
          ⟨not_not.mp haddress, ?_, hblocked, ?_⟩, ?_, Except.ok.inj hopened⟩
        · rw [hlength, Parts.bytes_eq, Parts.payload, ← List.length_append]
          rfl
        · rw [← checkTrailer_ok_iff hsize, Parts.body, Bytes.low_word, Bytes.high_word]
          exact hchecked
        · rw [Parts.bytes_eq, Bytes.low_word, Bytes.high_word]
          rfl
  · rintro ⟨p, hp, rfl, rfl⟩
    have hsize : p.trailer.length = trailerSize p.control := by
      rw [hp.trailer_eq, length_trailerOf]
    have hlength : (Bytes.word (Bytes.high p.length) (Bytes.low p.length)).toNat =
        p.payload.length + p.trailer.length + 5 := by
      rw [Bytes.word_high_low, hp.length_eq, Parts.bytes_eq]
      simp
    have hread : Cursor.run (readTail p.control) p.payload = .ok (p.code, p.data) :=
      readTail_ok_iff.mpr ⟨p.block, hp.blocked, rfl⟩
    have hchecked : checkTrailer (som :: p.address :: Bytes.low p.length :: Bytes.high p.length ::
        p.control :: p.payload) p.trailer = .ok () := (checkTrailer_ok_iff hsize).mpr hp.trailer_eq
    rw [Parts.bytes_eq, openReply_split hlength hsize p.payload_ne_nil, hchecked, ok_bind,
      if_neg (not_not_intro hp.address_eq), hread]
    rfl

/-- A reply that is not too long is found with its exact length, whatever comes after it. -/
theorem Parts.Fits.ofHead_bytes {p : Parts} {own : UInt8} (hp : p.Fits own)
    (hmost : p.bytes.length ≤ osdpMost) (rest : Bytes) :
    Cut.ofHead .osdp (p.bytes ++ rest) = .frame p.bytes.length := by
  have htrailer : p.trailer.length = trailerSize p.control := by
    rw [hp.trailer_eq, length_trailerOf]
  have hpayload : 0 < p.payload.length := List.length_pos_iff.mpr p.payload_ne_nil
  have hsize : p.bytes.length = p.payload.length + p.trailer.length + 5 := by
    rw [p.bytes_eq]
    simp
  have hleast : osdpLeast ≤ p.bytes.length := by
    rw [hsize, htrailer, osdpLeast, trailerSize]
    split <;> omega
  have hsix : Cut.reaches 6 (p.bytes ++ rest) = true := by
    rw [Cut.reaches_iff, List.length_append]
    exact Nat.le_add_right_of_le (Nat.le_of_succ_le hleast)
  have hwhole : Cut.reaches p.bytes.length (p.bytes ++ rest) = true := by
    rw [Cut.reaches_iff, List.length_append]
    exact Nat.le_add_right _ _
  have hdeclared : (Bytes.word ((p.bytes ++ rest).getD 3 0) ((p.bytes ++ rest).getD 2 0)).toNat =
      p.bytes.length := by
    rw [← hp.length_eq, p.bytes_eq]
    exact congrArg UInt16.toNat (Bytes.word_high_low p.length)
  have hmarker : (p.bytes ++ rest).head? = some som := rfl
  have hosdp : Cut.ofHead .osdp (p.bytes ++ rest) = Cut.osdp (p.bytes ++ rest) := rfl
  rw [hosdp, Cut.osdp, if_neg (not_not_intro hmarker), if_neg (not_not_intro hsix), hdeclared,
    if_neg (by omega), Cut.whole, if_pos hwhole]

theorem sequence_cases {s : UInt8} (hs : s ≤ 3) : s = 0 ∨ s = 1 ∨ s = 2 ∨ s = 3 := by
  have hnat : s.toNat ≤ 3 := UInt8.le_iff_toNat_le.mp hs
  simp only [← UInt8.toNat_inj]
  exact (by omega : s.toNat = 0 ∨ s.toNat = 1 ∨ s.toNat = 2 ∨ s.toNat = 3)

/-- A sequence number is read back from beside the flag of the check. -/
theorem sequence_flagged {s : UInt8} (hs : s ≤ 3) : (s ||| crcBit) &&& 0x03 = s := by
  rcases sequence_cases hs with rfl | rfl | rfl | rfl <;> decide

namespace Framer

/-- What a host sends for a command. -/
def wire (f : Framer) (command : Bytes) : Bytes :=
  let body := som :: f.address :: Bytes.littleEndian (UInt16.ofNat (5 + command.length + 2)) ++
    [f.sequence ||| crcBit] ++ command
  body ++ Bytes.littleEndian (Checksum.crc Checksum.seedOsdp body)

/-- A command is framed unless it is empty or too long. -/
theorem encode_run (command : Bytes) (f : Framer) : encode command f =
    if command = [] then .error (.tooShort 1 0) f
    else if osdpMost < 5 + command.length + 2 then
      .error (.payloadTooLarge (5 + command.length + 2) osdpMost) f
    else .ok (f.wire command) f := by
  unfold encode
  by_cases hempty : command = []
  · rw [if_pos (List.isEmpty_iff.mpr hempty), if_pos hempty, throw_bind_run]
  · rw [if_neg (mt List.isEmpty_iff.mp hempty), if_neg hempty]
    by_cases hlong : osdpMost < 5 + command.length + 2
    · rw [if_pos hlong, if_pos hlong]
      rfl
    · rw [if_neg hlong, if_neg hlong]
      rfl

theorem sent_eq {command sent : Bytes} {f : Framer} (h : outcome (encode command f) = .ok sent) :
    sent = f.wire command := by
  rw [encode_run] at h
  split_ifs at h with hempty hlong
  · contradiction
  · contradiction
  · exact (Except.ok.inj h).symm

end Framer

end CardReader.Osdp
