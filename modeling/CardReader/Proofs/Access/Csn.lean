import CardReader.Proofs.Access.Basic
import CardReader.Proofs.Rpleth.Csn

namespace CardReader.Access

section

open Rpleth.Csn

variable {ε : Type}

def bitAt (frame : Bytes) (n : Nat) : Try ε UInt8 := do
  let last ← minus frame.length 1
  let place ← minus last (n / 8)
  return ((← byteAt frame place) >>> UInt8.ofNat (n % 8)) &&& 1

/-- Takes the next bit over into the serial number. -/
def addBit (frame : Bytes) (offset size : Nat) (csn : Bytes) (i : Nat) : Try ε Bytes := do
  let bit ← bitAt frame (offset + i)
  let last ← minus size 1
  let place ← minus last (i / 8)
  put csn place (· ||| (bit <<< UInt8.ofNat (i % 8)))

def readCsn (frame : Bytes) (length offset : UInt32) : Try ε (Option Bytes) :=
  if length = 0 then return some frame
  else if frame.length * 8 < length.toNat + offset.toNat then return none
  else do
    let size := (length.toNat + 7) / 8
    let csn ← (List.range length.toNat).foldlM (addBit frame offset.toNat size)
      (List.replicate size 0)
    return some csn

theorem lowBit_eq (b : UInt8) {k : Nat} (hk : k < 8) :
    (b >>> UInt8.ofNat k) &&& 1 = if b.toNat.testBit k then 1 else 0 := by
  apply UInt8.toNat_inj.mp
  have hsmall : (UInt8.ofNat k).toNat % 8 = k := by
    rw [UInt8.toNat_ofNat', Nat.mod_eq_of_lt (show k < 2 ^ 8 by omega), Nat.mod_eq_of_lt hk]
  rw [UInt8.toNat_and, UInt8.toNat_shiftRight, hsmall, UInt8.toNat_one, Nat.and_one_is_mod,
    Nat.shiftRight_eq_div_pow, Nat.testBit_eq_decide_div_mod_eq]
  rcases Nat.mod_two_eq_zero_or_one (b.toNat / 2 ^ k) with h | h
  · rw [h]
    rfl
  · rw [h]
    rfl

theorem shifted_testBit (bit : Bool) (k j : Fin 8) :
    ((if bit then (1 : UInt8) else 0) <<< UInt8.ofNat k.val).toNat.testBit j.val =
      (decide (j = k) && bit) := by
  revert bit k j
  decide

theorem bitAt_eq {frame : Bytes} {n : Nat} (h : n < 8 * frame.length) :
    (bitAt frame n : Try ε UInt8) = .ok (if bitOf frame n then 1 else 0) := by
  unfold bitAt
  rw [minus_eq (by omega)]
  show (minus (frame.length - 1) (n / 8) >>= _ : Try ε UInt8) = _
  rw [minus_eq (by omega)]
  show (byteAt frame (frame.length - 1 - n / 8) >>= _ : Try ε UInt8) = _
  rw [byteAt_eq (by omega)]
  exact congrArg Except.ok (lowBit_eq _ (Nat.mod_lt n (by omega)))

/-- The serial number with one more bit. -/
def withBit (csn : Bytes) (i : Nat) (bit : Bool) : Bytes :=
  csn.modify (csn.length - 1 - i / 8)
    (· ||| ((if bit then (1 : UInt8) else 0) <<< UInt8.ofNat (i % 8)))

theorem withBit_length (csn : Bytes) (i : Nat) (bit : Bool) :
    (withBit csn i bit).length = csn.length := List.length_modify ..

theorem bitOf_withBit {csn : Bytes} {i n : Nat} (hi : i < 8 * csn.length) (hn : n < 8 * csn.length)
    (bit : Bool) : bitOf (withBit csn i bit) n = (bitOf csn n || (decide (n = i) && bit)) := by
  have hplace : csn.length - 1 - n / 8 < csn.length := by omega
  unfold bitOf
  rw [withBit_length, withBit, List.getD_eq_getElem?_getD, List.getElem?_modify,
    List.getD_eq_getElem?_getD, List.getElem?_eq_getElem hplace, Option.map_eq_map,
    Option.map_some, Option.getD_some, Option.getD_some]
  by_cases hbyte : i / 8 = n / 8
  · have hsame : n % 8 = i % 8 ↔ n = i := by omega
    rw [if_pos (by rw [hbyte]), UInt8.toNat_or, Nat.testBit_or,
      shifted_testBit bit ⟨i % 8, by omega⟩ ⟨n % 8, by omega⟩]
    simp only [Fin.mk.injEq, hsame]
  · have hother : n ≠ i := by
      rintro rfl
      exact hbyte rfl
    rw [if_neg (by omega), decide_eq_false hother, Bool.false_and, Bool.or_false]

theorem addBit_eq {frame csn : Bytes} {offset i : Nat} (hi : i < 8 * csn.length)
    (hinside : offset + i < 8 * frame.length) :
    (addBit frame offset csn.length csn i : Try ε Bytes) =
      .ok (withBit csn i (bitOf frame (offset + i))) := by
  unfold addBit
  rw [bitAt_eq hinside]
  show (minus csn.length 1 >>= _ : Try ε Bytes) = _
  rw [minus_eq (by omega)]
  show (minus (csn.length - 1) (i / 8) >>= _ : Try ε Bytes) = _
  rw [minus_eq (by omega)]
  exact put_eq (by omega) _

/-- After `k` steps the first `k` bits are there, and the others are still zero. -/
theorem addBits_ok (frame : Bytes) (offset size : Nat) (k : Nat) (hk : k ≤ 8 * size)
    (hinside : offset + k ≤ 8 * frame.length) :
    ∃ csn : Bytes, csn.length = size ∧
      ((List.range k).foldlM (addBit frame offset size) (List.replicate size 0) :
        Try ε Bytes) = .ok csn ∧
      ∀ n < 8 * size, bitOf csn n = (decide (n < k) && bitOf frame (offset + n)) := by
  induction k with
  | zero =>
    refine ⟨List.replicate size 0, List.length_replicate, rfl, fun n hn => ?_⟩
    rw [bitOf, List.length_replicate, List.getD_eq_getElem?_getD,
      List.getElem?_replicate_of_lt (by omega)]
    simp
  | succ k ih =>
    obtain ⟨csn, hlength, hrun, hbits⟩ := ih (by omega) (by omega)
    subst hlength
    refine ⟨withBit csn k (bitOf frame (offset + k)), withBit_length _ _ _, ?_, fun n hn => ?_⟩
    · rw [List.range_succ, List.foldlM_append, hrun]
      show ([k].foldlM (addBit frame offset csn.length) csn : Try ε Bytes) = _
      rw [List.foldlM_cons, addBit_eq (by omega) (by omega)]
      rfl
    · rw [bitOf_withBit (by omega) hn, hbits n hn]
      by_cases hlast : n = k
      · subst hlast
        simp
      · rw [decide_eq_false hlast, Bool.false_and, Bool.or_false,
          decide_eq_decide.mpr (show n < k ↔ n < k + 1 by omega)]

/-- Bit by bit the serial number comes to the field of the frame, with no bit from outside of it. -/
theorem readCsn_eq (frame : Bytes) (length offset : UInt32) :
    (readCsn frame length offset : Try ε (Option Bytes)) = .ok (extract frame length offset) := by
  unfold readCsn extract
  by_cases hwhole : length = 0
  · rw [if_pos hwhole, if_pos hwhole]
    rfl
  by_cases hshort : frame.length * 8 < length.toNat + offset.toNat
  · rw [if_neg hwhole, if_neg hwhole, if_pos hshort, if_pos hshort]
    rfl
  rw [if_neg hwhole, if_neg hwhole, if_neg hshort, if_neg hshort]
  obtain ⟨csn, hlength, hrun, hbits⟩ := addBits_ok (ε := ε) frame offset.toNat
    ((length.toNat + 7) / 8) length.toNat (by omega) (by omega)
  dsimp only
  rw [hrun]
  have hfield : (field frame length.toNat offset.toNat).length = length.toNat :=
    field_length (by omega)
  have hpack : (pack (field frame length.toNat offset.toNat)).length = csn.length := by
    rw [pack_length, hfield, hlength]
  have hcsn : csn = (pack (field frame length.toNat offset.toNat)).reverse := by
    apply bytes_ext
    · rw [List.length_reverse, hpack]
    · intro n hn
      rw [hbits n (by omega), bitOf_pack _ (by omega)]
      by_cases hin : n < length.toNat
      · rw [field_getD hin (by omega), decide_eq_true hin, Bool.true_and]
      · rw [decide_eq_false hin, Bool.false_and, List.getD_eq_getElem?_getD,
          List.getElem?_eq_none (by omega)]
        rfl
  rw [← hcsn]
  rfl

end

end CardReader.Access
