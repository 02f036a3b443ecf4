import CardReader.Bytes.Checksum
import Mathlib.Logic.Function.Basic
import Mathlib.Tactic.Common

namespace CardReader

namespace Bytes

def bit (k : Fin 8) : UInt8 := 1 <<< UInt8.ofNat k

/-- `data` with bit `k` of byte `i` turned over. -/
def flip (i : Nat) (k : Fin 8) (data : Bytes) : Bytes := data.modify i (· ^^^ bit k)

variable {data front back : Bytes} {i : Nat} {k : Fin 8}

theorem bit_ne_zero (k : Fin 8) : bit k ≠ 0 := by
  revert k
  decide

theorem xor_bit_ne (b : UInt8) (k : Fin 8) : b ^^^ bit k ≠ b := by
  intro h
  have hzero : bit k = 0 := by
    rw [← UInt8.zero_xor (a := bit k), ← UInt8.xor_self (a := b), UInt8.xor_assoc, h]
  exact bit_ne_zero k hzero

@[simp] theorem length_flip (i : Nat) (k : Fin 8) (data : Bytes) :
    (flip i k data).length = data.length := List.length_modify _ data i

theorem getD_flip {j : Nat} (hj : j < data.length) :
    (flip i k data).getD j 0 = if i = j then data.getD j 0 ^^^ bit k else data.getD j 0 := by
  rw [List.getD_eq_getElem?_getD, List.getD_eq_getElem?_getD, flip, List.getElem?_modify,
    List.getElem?_eq_getElem hj]
  rfl

theorem flip_append_left (hi : i < front.length) (k : Fin 8) (back : Bytes) :
    flip i k (front ++ back) = flip i k front ++ back := by
  induction front generalizing i with
  | nil => exact absurd hi (Nat.not_lt_zero i)
  | cons a front ih =>
    cases i with
    | zero => rfl
    | succ i => exact congrArg (a :: ·) (ih (Nat.lt_of_succ_lt_succ hi))

theorem flip_append_right (hi : front.length ≤ i) (k : Fin 8) (back : Bytes) :
    flip i k (front ++ back) = front ++ flip (i - front.length) k back := by
  induction front generalizing i with
  | nil => rfl
  | cons a front ih =>
    obtain ⟨j, rfl⟩ := Nat.exists_eq_add_of_le' (Nat.lt_of_lt_of_le (Nat.succ_pos _) hi)
    rw [List.length_cons, Nat.add_sub_add_right]
    exact congrArg (a :: ·) (ih (Nat.le_of_succ_le_succ hi))

/-- What a flip does, seen around the byte it is made in. -/
theorem flip_around (hi : i < data.length) (k : Fin 8) : ∃ front b back, front.length = i ∧
    data = front ++ b :: back ∧ flip i k data = front ++ (b ^^^ bit k) :: back := by
  have hdata : data = data.take i ++ data[i] :: data.drop (i + 1) := by
    rw [← List.drop_eq_getElem_cons hi, List.take_append_drop]
  have hfront : (data.take i).length = i := List.length_take_of_le (Nat.le_of_lt hi)
  refine ⟨data.take i, data[i], data.drop (i + 1), hfront, hdata, ?_⟩
  have hflip := flip_append_right (Nat.le_of_eq hfront) k (data[i] :: data.drop (i + 1))
  rw [← hdata, hfront, Nat.sub_self] at hflip
  exact hflip

theorem flip_ne (hi : i < data.length) (k : Fin 8) : flip i k data ≠ data := by
  obtain ⟨front, b, back, -, hdata, hflip⟩ := flip_around hi k
  rw [hflip, hdata]
  intro h
  exact xor_bit_ne b k (List.cons.inj (List.append_cancel_left h)).1

end Bytes

namespace Checksum

open Bytes

variable {i : Nat} {data : Bytes}

theorem foldl_xor (data : Bytes) (r : UInt8) : data.foldl (· ^^^ ·) r = r ^^^ xor data := by
  induction data generalizing r with
  | nil => exact (UInt8.xor_zero).symm
  | cons b data ih =>
    have hxor : xor (b :: data) = b ^^^ xor data := by
      rw [xor, List.foldl_cons, UInt8.zero_xor, ih b]
    rw [List.foldl_cons, ih (r ^^^ b), hxor, UInt8.xor_assoc]

theorem xor_cons (b : UInt8) (data : Bytes) : xor (b :: data) = b ^^^ xor data := by
  rw [xor, List.foldl_cons, UInt8.zero_xor, foldl_xor]

theorem xor_append (front back : Bytes) : xor (front ++ back) = xor front ^^^ xor back := by
  rw [xor, List.foldl_append, foldl_xor]
  rfl

theorem xor_concat (data : Bytes) (b : UInt8) : xor (data ++ [b]) = xor data ^^^ b := by
  rw [xor_append, xor_cons]
  exact congrArg (xor data ^^^ ·) UInt8.xor_zero

theorem xor_flip (hi : i < data.length) (k : Fin 8) : xor (flip i k data) = xor data ^^^ bit k := by
  obtain ⟨front, b, back, -, hdata, hflip⟩ := flip_around hi k
  rw [hflip, hdata, xor_append, xor_cons, xor_append, xor_cons, UInt8.xor_assoc b,
    UInt8.xor_comm (bit k), ← UInt8.xor_assoc b, ← UInt8.xor_assoc]

/-- The bit that leaves on the left comes back on the right, since the polynomial is odd. -/
theorem shift_low (r : BitVec 16) : (shift r).getLsbD 0 = r.msb := by
  have hleft : (r <<< 1).getLsbD 0 = false := by simp
  unfold shift
  cases hmsb : r.msb with
  | false => rw [if_neg Bool.false_ne_true, hleft]
  | true =>
    rw [if_pos rfl, BitVec.getLsbD_xor, hleft]
    rfl

/-- Each move of the register can be undone, so it never forgets a difference. -/
theorem shift_injective : Function.Injective shift := by
  intro r s h
  have hmsb : r.msb = s.msb := by rw [← shift_low r, ← shift_low s, h]
  have hleft : r <<< 1 = s <<< 1 := by
    unfold shift at h
    rw [← hmsb] at h
    cases hr : r.msb with
    | false => simpa only [hr, Bool.false_eq_true, if_false] using h
    | true => simpa only [hr, if_true, BitVec.xor_left_inj] using h
  apply BitVec.eq_of_getLsbD_eq
  intro j hj
  by_cases hlast : j = 15
  · rw [BitVec.msb_eq_getLsbD_last, BitVec.msb_eq_getLsbD_last] at hmsb
    rw [hlast]
    exact hmsb
  · have hbit := congrArg (fun x : BitVec 16 => x.getLsbD (j + 1)) hleft
    have hin : j + 1 < 16 := by omega
    simp only [BitVec.getLsbD_shiftLeft, hin, decide_true, Bool.true_and] at hbit
    exact hbit

theorem shifts_injective (n : Nat) : Function.Injective (shifts n) := by
  induction n with
  | zero => exact fun _ _ h => h
  | succ n ih => exact ih.comp shift_injective

theorem step_injective (b : UInt8) : Function.Injective fun r => step r b := by
  intro r s h
  exact (BitVec.xor_left_inj _).mp (shifts_injective 8 h)

theorem step_byte_injective (r : BitVec 16) : Function.Injective (step r) := by
  intro b c h
  have hbytes := (BitVec.xor_right_inj r).mp (shifts_injective 8 h)
  apply UInt8.toBitVec_inj.mp
  apply BitVec.eq_of_getLsbD_eq
  intro j hj
  have hbit := congrArg (fun x : BitVec 16 => x.getLsbD (j + 8)) hbytes
  have hin : j + 8 < 16 := by omega
  have hout : ¬j + 8 < 8 := by omega
  have hwidth : j < 16 := by omega
  simp only [BitVec.getLsbD_shiftLeft, BitVec.getLsbD_setWidth, hin, hout, hwidth, decide_true,
    decide_false, Bool.not_false, Bool.true_and, Nat.add_sub_cancel] at hbit
  exact hbit

theorem register_injective (data : Bytes) : Function.Injective fun r => data.foldl step r := by
  induction data with
  | nil => exact fun _ _ h => h
  | cons b data ih => exact ih.comp (step_injective b)

/-- A byte that differs shows in the check, whatever stands before and after it. -/
theorem crc_byte_ne (seed : UInt16) (front back : Bytes) {b c : UInt8} (h : b ≠ c) :
    crc seed (front ++ b :: back) ≠ crc seed (front ++ c :: back) := by
  intro hcrc
  rw [crc_append, crc_append] at hcrc
  have hregister := register_injective back (UInt16.toBitVec_inj.mpr hcrc)
  exact h (step_byte_injective _ hregister)

theorem crc_flip_ne (seed : UInt16) (hi : i < data.length) (k : Fin 8) :
    crc seed (flip i k data) ≠ crc seed data := by
  obtain ⟨front, b, back, -, hdata, hflip⟩ := flip_around hi k
  rw [hflip, hdata]
  exact crc_byte_ne seed front back (xor_bit_ne b k)

/-- Bytes with their check behind them, in whatever two-byte form, are not such bytes any more when
a bit of them or of their check is turned over. -/
theorem sealed_flip_ne {form : UInt16 → Bytes} (hform : Function.Injective form)
    (hlength : ∀ w, (form w).length = 2) (seed : UInt16) {body : Bytes}
    (hi : i < (body ++ form (crc seed body)).length) (k : Fin 8) (body' : Bytes) :
    flip i k (body ++ form (crc seed body)) ≠ body' ++ form (crc seed body') := by
  intro h
  have hsize : body.length = body'.length := by
    have hlengths := congrArg List.length h
    rw [length_flip, List.length_append, List.length_append, hlength, hlength] at hlengths
    omega
  by_cases hbody : i < body.length
  · rw [flip_append_left hbody] at h
    obtain ⟨rfl, hcheck⟩ := List.append_inj h (by rw [length_flip, hsize])
    exact crc_flip_ne seed hbody k (hform hcheck).symm
  · rw [flip_append_right (Nat.le_of_not_lt hbody)] at h
    obtain ⟨rfl, hcheck⟩ := List.append_inj h hsize
    rw [List.length_append] at hi
    exact flip_ne (by omega) k hcheck

end Checksum

end CardReader
