import CardReader.Proofs.Bytes.Flip
import CardReader.Proofs.Osdp.Numbering
import Mathlib.Algebra.Ring.Nat

namespace CardReader

namespace Checksum

theorem toNat_foldl_add (data : Bytes) (a : UInt8) :
    (data.foldl (· + ·) a).toNat = (a.toNat + (data.map UInt8.toNat).sum) % 256 := by
  induction data generalizing a with
  | nil => exact (Nat.mod_eq_of_lt a.toNat_lt).symm
  | cons b data ih =>
    rw [List.foldl_cons, ih, UInt8.toNat_add, Nat.mod_add_mod, List.map_cons, List.sum_cons,
      Nat.add_assoc]

theorem sum8_eq_zero_iff {data : Bytes} :
    sum8 data = 0 ↔ (data.map UInt8.toNat).sum % 256 = 0 := by
  have htotal := toNat_foldl_add data 0
  rw [UInt8.toNat_zero, Nat.zero_add] at htotal
  rw [← htotal, sum8, UInt8.sub_eq_iff_eq_add, UInt8.zero_add, ← UInt8.toNat_inj]
  exact eq_comm

theorem sum8_concat_eq_zero_iff {data : Bytes} {b : UInt8} :
    sum8 (data ++ [b]) = 0 ↔ b = sum8 data := by
  unfold sum8
  rw [List.foldl_append, List.foldl_cons, List.foldl_nil, UInt8.sub_eq_iff_eq_add, UInt8.zero_add,
    eq_comm (a := b), UInt8.sub_eq_iff_eq_add, UInt8.add_comm b]

end Checksum

namespace Osdp

open Run

theorem littleEndian_injective : Function.Injective Bytes.littleEndian := by
  intro v w h
  rw [littleEndian_eq_iff.mp h, Bytes.word_high_low]

/-- Only the flag itself turns the flag over. -/
theorem flag_flipped (c : UInt8) (k : Fin 8) (h : c &&& crcBit ≠ 0) :
    (c ^^^ Bytes.bit k) &&& crcBit = 0 ↔ k = 2 := by
  have hall : ∀ (c : BitVec 8) (k : Fin 8), UInt8.ofBitVec c &&& crcBit ≠ 0 →
      ((UInt8.ofBitVec c ^^^ Bytes.bit k) &&& crcBit = 0 ↔ k = 2) := by
    decide +kernel
  exact hall c.toBitVec k h

/-- The flag turned over leaves the rest of the control byte as it was. -/
theorem rest_kept (c : UInt8) : (c ^^^ Bytes.bit 2) &&& blockBit = c &&& blockBit ∧
    (c ^^^ Bytes.bit 2) &&& 0x03 = c &&& 0x03 := by
  have hall : ∀ c : BitVec 8, (UInt8.ofBitVec c ^^^ Bytes.bit 2) &&& blockBit =
      UInt8.ofBitVec c &&& blockBit ∧
        (UInt8.ofBitVec c ^^^ Bytes.bit 2) &&& 0x03 = UInt8.ofBitVec c &&& 0x03 := by
    decide +kernel
  exact hall c.toBitVec

namespace Parts

/-- The reply that the bytes are with the flag turned over: the lower half of the check is data, and
the upper half a sum. -/
def unflagged (p : Parts) : Parts :=
  let check := Checksum.crc Checksum.seedOsdp p.body
  { p with
    control := p.control ^^^ Bytes.bit 2
    data := p.data ++ [Bytes.low check]
    trailer := [Bytes.high check] }

variable {p : Parts} {own : UInt8}

theorem Fits.checked (hp : p.Fits own) (hcheck : p.control &&& crcBit ≠ 0) :
    p.bytes = p.body ++ Bytes.littleEndian (Checksum.crc Checksum.seedOsdp p.body) := by
  have htrailer := hp.trailer_eq
  rw [trailerOf, if_pos hcheck] at htrailer
  rw [bytes, htrailer]

theorem Fits.summed (hp : p.Fits own) (hsum : ¬p.control &&& crcBit ≠ 0) :
    Checksum.sum8 p.bytes = 0 := by
  have htrailer := hp.trailer_eq
  rw [trailerOf, if_neg hsum] at htrailer
  rw [bytes, htrailer]
  exact Checksum.sum8_concat_eq_zero_iff.mpr rfl

theorem Fits.bytes_unflagged (hp : p.Fits own) (hcheck : p.control &&& crcBit ≠ 0) :
    p.unflagged.bytes = Bytes.flip 4 2 p.bytes := by
  have hbody : Bytes.flip 4 2 p.body = som :: p.address :: Bytes.low p.length ::
      Bytes.high p.length :: (p.control ^^^ Bytes.bit 2) :: p.payload := rfl
  rw [hp.checked hcheck, Bytes.flip_append_left (by simp [body]), hbody, bytes, body, payload,
    payload]
  simp [unflagged, Bytes.littleEndian]

theorem Fits.unflagged (hp : p.Fits own) (hcheck : p.control &&& crcBit ≠ 0)
    (hsum : Checksum.sum8 (Bytes.flip 4 2 p.bytes) = 0) : p.unflagged.Fits own where
  address_eq := hp.address_eq
  length_eq := by
    rw [hp.bytes_unflagged hcheck, Bytes.length_flip]
    exact hp.length_eq
  blocked := by
    have hblocked := hp.blocked
    rw [Blocked, ← (rest_kept p.control).1] at hblocked
    exact hblocked
  trailer_eq := by
    have hflag : ¬p.unflagged.control &&& crcBit ≠ 0 :=
      not_not_intro ((flag_flipped p.control 2 hcheck).mpr rfl)
    have hlast : Bytes.high (Checksum.crc Checksum.seedOsdp p.body) =
        Checksum.sum8 p.unflagged.body := by
      rw [← hp.bytes_unflagged hcheck] at hsum
      exact Checksum.sum8_concat_eq_zero_iff.mp hsum
    rw [trailerOf, if_neg hflag, ← hlast]
    rfl

end Parts

namespace Framer

variable {f : Framer} {frame : Bytes} {i : Nat}

theorem accepts_iff_fits : f.accepts frame = true ↔ ∃ p : Parts,
    p.Fits f.address ∧ p.bytes = frame ∧ p.control &&& 0x03 = f.sequence := by
  simp only [accepts_iff, openReply_ok_iff]
  constructor
  · rintro ⟨_, ⟨p, hp, hbytes, rfl⟩, hsequence⟩
    exact ⟨p, hp, hbytes, hsequence⟩
  · rintro ⟨p, hp, hbytes, hsequence⟩
    exact ⟨p.reply, ⟨p, hp, hbytes, rfl⟩, hsequence⟩

/-- With one bit turned over, an accepted frame with a two-byte check is accepted only if that bit
is the flag of the check and the bytes sum to zero. -/
theorem accepts_flip_iff (haccepts : f.accepts frame = true)
    (hcheck : frame.getD 4 0 &&& crcBit ≠ 0) (hi : i < frame.length) (k : Fin 8) :
    f.accepts (Bytes.flip i k frame) = true ↔
      i = 4 ∧ k = 2 ∧ Checksum.sum8 (Bytes.flip i k frame) = 0 := by
  obtain ⟨p, hp, rfl, hsequence⟩ := accepts_iff_fits.mp haccepts
  have hflag : p.control &&& crcBit ≠ 0 := hcheck
  have hfive : 4 < p.bytes.length := by simp [Parts.bytes, Parts.body]
  constructor
  · intro h
    obtain ⟨q, hq, hbytes, -⟩ := accepts_iff_fits.mp h
    have hcontrol : q.control = if i = 4 then p.control ^^^ Bytes.bit k else p.control :=
      (congrArg (·.getD 4 0) hbytes).trans (Bytes.getD_flip hfive)
    have hsummed : ¬q.control &&& crcBit ≠ 0 := by
      intro hchecked
      rw [hq.checked hchecked, hp.checked hflag] at hbytes
      rw [hp.checked hflag] at hi
      exact Checksum.sealed_flip_ne littleEndian_injective (fun _ => rfl) _ hi k _ hbytes.symm
    have hsum := hq.summed hsummed
    rw [hbytes] at hsum
    by_cases hfour : i = 4
    · rw [hcontrol, if_pos hfour] at hsummed
      exact ⟨hfour, (flag_flipped p.control k hflag).mp (not_not.mp hsummed), hsum⟩
    · rw [hcontrol, if_neg hfour] at hsummed
      exact absurd hflag hsummed
  · rintro ⟨rfl, rfl, hsum⟩
    refine accepts_iff_fits.mpr ⟨p.unflagged, hp.unflagged hflag hsum, hp.bytes_unflagged hflag, ?_⟩
    exact (rest_kept p.control).2.trans hsequence

/-- A frame is refused as such, and the host stays as it was, exactly if it is not accepted. -/
theorem refuses_iff : (∃ e, decode frame f = .error e f ∧ e.kind = .framing) ↔
    ¬f.accepts frame = true := by
  constructor
  · rintro ⟨e, hrun, hkind⟩ haccepts
    obtain ⟨answer, hanswered⟩ | ⟨code, hnak⟩ := decode_accepted haccepts
    · rw [hanswered] at hrun
      contradiction
    · rw [hnak] at hrun
      obtain ⟨rfl, -⟩ := EStateM.Result.error.inj hrun
      contradiction
  · intro h
    exact decode_rejected (Bool.eq_false_iff.mpr h)

/-- A bit of an accepted frame with a two-byte check that is turned over is noticed: the host, in
the state in which it would have accepted the frame, refuses it and stays as it was. The flag that
tells that there is a two-byte check is noticed unless the bytes sum to zero with it turned over,
and then the frame is accepted. -/
theorem decode_flip_refused_iff (haccepts : f.accepts frame = true)
    (hcheck : frame.getD 4 0 &&& crcBit ≠ 0) (hi : i < frame.length) (k : Fin 8) :
    (∃ e, decode (Bytes.flip i k frame) f = .error e f ∧ e.kind = .framing) ↔
      ¬(i = 4 ∧ k = 2 ∧ ((Bytes.flip i k frame).map UInt8.toNat).sum % 256 = 0) := by
  rw [refuses_iff, accepts_flip_iff haccepts hcheck hi, Checksum.sum8_eq_zero_iff]

/-- The acknowledgement of a poll, refused with the flag turned over: the bytes sum to 42. -/
theorem decode_flip_refused_iff_unsummed :
    accepts ⟨1, 0⟩ [0x53, 0x81, 0x08, 0x00, 0x04, 0x40, 0x08, 0x06] = true ∧
      Bytes.flip 4 2 [0x53, 0x81, 0x08, 0x00, 0x04, 0x40, 0x08, 0x06] =
        [0x53, 0x81, 0x08, 0x00, 0x00, 0x40, 0x08, 0x06] ∧
      ∃ e, decode (Bytes.flip 4 2 [0x53, 0x81, 0x08, 0x00, 0x04, 0x40, 0x08, 0x06]) ⟨1, 0⟩ =
        .error e ⟨1, 0⟩ ∧ e.kind = .framing := by
  have haccepts : accepts ⟨1, 0⟩ [0x53, 0x81, 0x08, 0x00, 0x04, 0x40, 0x08, 0x06] = true := by
    decide +kernel
  exact ⟨haccepts, rfl,
    (decode_flip_refused_iff haccepts (by decide) (by decide) 2).mpr (by decide)⟩

/-- A local status whose check ends in the byte that is also the sum: with the flag turned over it
is a longer status. -/
theorem flag_unnoticed :
    decode [0x53, 0xD1, 0x0A, 0x00, 0x04, 0x48, 0x01, 0x01, 0xC8, 0xC0] ⟨0x51, 0⟩ =
        .ok ⟨[0x01, 0x01], localStatusReply⟩ ⟨0x51, 1⟩ ∧
      (0x04 : UInt8) &&& crcBit ≠ 0 ∧
      Bytes.flip 4 2 [0x53, 0xD1, 0x0A, 0x00, 0x04, 0x48, 0x01, 0x01, 0xC8, 0xC0] =
        [0x53, 0xD1, 0x0A, 0x00, 0x00, 0x48, 0x01, 0x01, 0xC8, 0xC0] ∧
      decode [0x53, 0xD1, 0x0A, 0x00, 0x00, 0x48, 0x01, 0x01, 0xC8, 0xC0] ⟨0x51, 0⟩ =
        .ok ⟨[0x01, 0x01, 0xC8], localStatusReply⟩ ⟨0x51, 1⟩ := by
  have hsent : openReply 0x51 [0x53, 0xD1, 0x0A, 0x00, 0x04, 0x48, 0x01, 0x01, 0xC8, 0xC0] =
      .ok ⟨0xD1, 0, localStatusReply, [0x01, 0x01]⟩ := by decide +kernel
  have hflipped : openReply 0x51 [0x53, 0xD1, 0x0A, 0x00, 0x00, 0x48, 0x01, 0x01, 0xC8, 0xC0] =
      .ok ⟨0xD1, 0, localStatusReply, [0x01, 0x01, 0xC8]⟩ := by decide +kernel
  refine ⟨?_, by decide, rfl, ?_⟩
  · rw [decode_run, hsent]
    rfl
  · rw [decode_run, hflipped]
    rfl

end Framer

end Osdp

end CardReader
