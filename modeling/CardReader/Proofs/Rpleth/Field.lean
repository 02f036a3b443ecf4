import CardReader.Proofs.Bytes.Number
import CardReader.Proofs.Rpleth.Csn

namespace CardReader.Rpleth.Csn

open Bytes

theorem bitOf_concat_lt (data : Bytes) (b : UInt8) {n : Nat} (h : n < 8) :
    bitOf (data ++ [b]) n = b.toNat.testBit n := by
  rw [bitOf, List.length_append, List.length_singleton, Nat.div_eq_of_lt h, Nat.mod_eq_of_lt h,
    List.getD_append_right _ _ _ _ (by omega)]
  rw [show data.length + 1 - 1 - 0 - data.length = 0 by omega]
  rfl

theorem bitOf_concat_add (data : Bytes) (b : UInt8) {n : Nat} (h : n < 8 * data.length) :
    bitOf (data ++ [b]) (n + 8) = bitOf data n := by
  rw [bitOf, List.length_append, List.length_singleton, Nat.add_div_right n (by decide),
    Nat.add_mod_right, List.getD_append _ _ _ _ (by omega), bitOf]
  congr 3
  omega

/-- The bits of a byte string, the last one first, are those of its number. -/
theorem number_testBit (data : Bytes) (n : Nat) :
    (number data).testBit n = (decide (n < 8 * data.length) && bitOf data n) := by
  induction data using List.reverseRecOn generalizing n with
  | nil => simp [number_nil]
  | append_singleton data b ih =>
    have hbyte : b.toNat < 2 ^ 8 := b.toNat_lt
    rw [number_concat, Nat.add_comm, Nat.testBit_two_pow_mul_add (number data) hbyte n,
      List.length_append, List.length_singleton]
    by_cases hn : n < 8
    · rw [if_pos hn, bitOf_concat_lt data b hn, decide_eq_true (by omega), Bool.true_and]
    · obtain ⟨k, rfl⟩ : ∃ k, n = k + 8 := ⟨n - 8, by omega⟩
      rw [if_neg hn, Nat.add_sub_cancel, ih,
        decide_eq_decide.mpr (show k < 8 * data.length ↔ k + 8 < 8 * (data.length + 1) by omega)]
      by_cases hk : k < 8 * data.length
      · rw [bitOf_concat_add data b hk]
      · rw [decide_eq_false (by omega), Bool.false_and, Bool.false_and]

theorem length_packed_field {frame : Bytes} {length offset : Nat}
    (hfits : length + offset ≤ 8 * frame.length) :
    (pack (field frame length offset)).length = (length + 7) / 8 := by
  rw [pack_length, field_length hfits]

/-- A field packed into bytes is the number of the frame, without what stands behind the field and
what stands in front of it. -/
theorem number_field {frame : Bytes} {length offset : Nat}
    (hfits : length + offset ≤ 8 * frame.length) :
    number (pack (field frame length offset)).reverse =
      number frame / 2 ^ offset % 2 ^ length := by
  have hlength := length_packed_field hfits
  apply Nat.eq_of_testBit_eq
  intro n
  rw [number_testBit, List.length_reverse, hlength, Nat.testBit_mod_two_pow,
    Nat.testBit_div_two_pow, number_testBit]
  by_cases hn : n < length
  · rw [bitOf_pack _ (by omega), field_getD hn (by omega), decide_eq_true hn,
      decide_eq_true (by omega), decide_eq_true (by omega), Bool.true_and, Bool.true_and,
      Bool.true_and, Nat.add_comm n]
  · rw [decide_eq_false hn, Bool.false_and]
    by_cases hpad : n < 8 * ((length + 7) / 8)
    · rw [bitOf_pack _ (by omega), List.getD_eq_getElem?_getD,
        List.getElem?_eq_none (by rw [field_length hfits]; omega), Option.getD_none, Bool.and_false]
    · rw [decide_eq_false hpad, Bool.false_and]

/-- Without a length the serial number is the whole frame. With one it is missing if and only if the
frame has too few bits; otherwise it is a field of the frame's number, on as few bytes as hold the
bits of every such field. -/
theorem extract_field (frame : Bytes) (length offset : UInt32) :
    extract frame 0 offset = some frame ∧
      (length ≠ 0 →
        (extract frame length offset = none ↔
          8 * frame.length < length.toNat + offset.toNat) ∧
        ∀ csn, extract frame length offset = some csn ↔
          length.toNat + offset.toNat ≤ 8 * frame.length ∧
            csn.length = (length.toNat + 7) / 8 ∧
            number csn = number frame / 2 ^ offset.toNat % 2 ^ length.toNat) := by
  refine ⟨rfl, fun hsome => ?_⟩
  unfold extract
  rw [if_neg hsome, Nat.mul_comm]
  by_cases hshort : 8 * frame.length < length.toNat + offset.toNat
  · rw [if_pos hshort]
    refine ⟨iff_of_true rfl hshort, fun csn => iff_of_false nofun fun h => ?_⟩
    exact absurd hshort (Nat.not_lt.mpr h.1)
  · have hfits := Nat.le_of_not_lt hshort
    have hbytes : (pack (field frame length.toNat offset.toNat)).reverse.length =
        (length.toNat + 7) / 8 := by
      rw [List.length_reverse, length_packed_field hfits]
    rw [if_neg hshort]
    refine ⟨iff_of_false nofun hshort, fun csn => ⟨?_, ?_⟩⟩
    · rintro ⟨⟩
      exact ⟨hfits, hbytes, number_field hfits⟩
    · rintro ⟨-, hsize, hnumber⟩
      rw [number_injective (hbytes.trans hsize.symm) ((number_field hfits).trans hnumber.symm)]

/-- Twelve bits from the middle of a byte on, and a sum of length and offset that is beyond every
32-bit number. -/
theorem extract_field_unaligned :
    (12 : UInt32) ≠ 0 ∧ extract [0x12, 0x34, 0x56, 0x78] 12 4 = some [0x05, 0x67] ∧
      extract [0x12, 0x34, 0x56, 0x78] 0xFFFFFFF8 0x28 = none := by
  obtain ⟨-, hfield⟩ := extract_field [0x12, 0x34, 0x56, 0x78] 12 4
  obtain ⟨-, hbeyond⟩ := extract_field [0x12, 0x34, 0x56, 0x78] 0xFFFFFFF8 0x28
  refine ⟨by decide, ((hfield (by decide)).2 _).mpr ⟨by decide, rfl, by decide⟩,
    (hbeyond (by decide)).1.mpr (by decide)⟩

end CardReader.Rpleth.Csn
