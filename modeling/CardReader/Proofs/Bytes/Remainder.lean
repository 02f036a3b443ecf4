import CardReader.Bytes.Checksum
import Mathlib.Algebra.Field.ZMod
import Mathlib.Algebra.Polynomial.Div
import Mathlib.Data.List.GetD
import Mathlib.RingTheory.AdjoinRoot
import Mathlib.Tactic.ComputeDegree
import Mathlib.Tactic.LinearCombination

namespace CardReader

namespace Bytes

/-- Bit `j` of a byte string in the order of transmission, the highest bit of each byte first. -/
def bitAt (data : Bytes) (j : Nat) : Bool := (data.getD (j / 8) 0).toBitVec.getMsbD (j % 8)

theorem bitAt_cons_lt {j : Nat} (hj : j < 8) (b : UInt8) (rest : Bytes) :
    bitAt (b :: rest) j = b.toBitVec.getMsbD j := by
  rw [bitAt, Nat.div_eq_of_lt hj, Nat.mod_eq_of_lt hj, List.getD_cons_zero]

theorem bitAt_cons_add (b : UInt8) (rest : Bytes) (j : Nat) :
    bitAt (b :: rest) (j + 8) = bitAt rest j := by
  rw [bitAt, Nat.add_div_right j (by decide), Nat.add_mod_right, List.getD_cons_succ, bitAt]

theorem eq_of_bitAt {a b : Bytes} (hlength : a.length = b.length)
    (h : ∀ j < 8 * a.length, a.bitAt j = b.bitAt j) : a = b := by
  apply List.ext_getElem hlength
  intro i hi hi'
  apply UInt8.toBitVec_inj.mp
  apply BitVec.eq_of_getMsbD_eq
  intro k hk
  have hbit := h (8 * i + k) (by omega)
  have hbyte : (8 * i + k) / 8 = i := by omega
  have hplace : (8 * i + k) % 8 = k := by omega
  rw [bitAt, bitAt, hbyte, hplace, List.getD_eq_getElem a 0 hi, List.getD_eq_getElem b 0 hi'] at hbit
  exact hbit

end Bytes

namespace Checksum

open Polynomial

def coefficient (b : Bool) : ZMod 2 := if b then 1 else 0

theorem coefficient_xor (a b : Bool) : coefficient (a ^^ b) = coefficient a + coefficient b := by
  cases a <;> cases b <;> decide

theorem coefficient_injective : Function.Injective coefficient := by
  intro a b h
  revert h
  cases a <;> cases b <;> decide

/-- The polynomial of a register; its lowest bit is the constant term. -/
noncomputable def polynomial {n : Nat} (r : BitVec n) : (ZMod 2)[X] :=
  ∑ i ∈ Finset.range n, monomial i (coefficient (r.getLsbD i))

/-- The polynomial of a byte string; its first bit has the highest power. -/
noncomputable def message : Bytes → (ZMod 2)[X]
  | [] => 0
  | b :: rest => polynomial b.toBitVec * X ^ (8 * rest.length) + message rest

noncomputable def generator : (ZMod 2)[X] := X ^ 16 + X ^ 12 + X ^ 5 + 1

theorem generator_monic : generator.Monic := by
  unfold generator
  monicity!

theorem degree_generator : generator.degree = 16 := by
  unfold generator
  compute_degree!

theorem coeff_polynomial {n : Nat} (r : BitVec n) (i : Nat) :
    (polynomial r).coeff i = coefficient (r.getLsbD i) := by
  by_cases hi : i < n
  · simp [polynomial, coeff_monomial, hi]
  · simp [polynomial, coeff_monomial, hi, BitVec.getLsbD_of_ge r i (by omega),
      coefficient]

theorem degree_polynomial {n : Nat} (r : BitVec n) : (polynomial r).degree < n := by
  apply (degree_lt_iff_coeff_zero _ _).mpr
  intro i hi
  rw [coeff_polynomial, BitVec.getLsbD_of_ge r i hi]
  rfl

theorem polynomial_xor {n : Nat} (r s : BitVec n) :
    polynomial (r ^^^ s) = polynomial r + polynomial s := by
  ext i
  rw [coeff_add, coeff_polynomial, coeff_polynomial, coeff_polynomial, BitVec.getLsbD_xor,
    coefficient_xor]

theorem polynomial_poly : polynomial poly = X ^ 12 + X ^ 5 + 1 := by
  ext i
  rw [coeff_polynomial, coeff_add, coeff_add, coeff_X_pow, coeff_X_pow, coeff_one]
  by_cases hi : i < 16
  · revert i
    decide
  · rw [BitVec.getLsbD_of_ge poly i (by omega), if_neg (by omega), if_neg (by omega),
      if_neg (by omega)]
    rfl

/-- A register moved one place, before the bit that leaves it on the left is divided out. -/
theorem polynomial_shiftLeft (r : BitVec 16) :
    polynomial (r <<< 1) + C (coefficient r.msb) * X ^ 16 = X * polynomial r := by
  ext i
  rw [coeff_add, coeff_C_mul, coeff_X_pow, coeff_polynomial, BitVec.msb_eq_getLsbD_last]
  cases i with
  | zero => simp [coefficient]
  | succ i =>
    rw [coeff_X_mul, coeff_polynomial, BitVec.getLsbD_shiftLeft, Nat.add_sub_cancel]
    obtain hi | rfl | hi := Nat.lt_trichotomy i 15
    · have hin : i + 1 < 16 := by omega
      have hlast : ¬i = 15 := by omega
      simp [hin, hlast]
    · simp [coefficient]
    · have hlast : ¬i = 15 := by omega
      simp [hlast, BitVec.getLsbD_of_ge r i hi, coefficient]

theorem polynomial_shift (r : BitVec 16) :
    polynomial (shift r) + C (coefficient r.msb) * generator = X * polynomial r := by
  rw [← polynomial_shiftLeft, shift]
  cases r.msb with
  | false => simp [coefficient]
  | true =>
    rw [if_pos rfl, polynomial_xor, polynomial_poly, generator]
    have htwo : (2 : (ZMod 2)[X]) = 0 := CharTwo.two_eq_zero
    simp only [coefficient, if_true, C_1]
    linear_combination (X ^ 12 + X ^ 5 + 1) * htwo

/-- A byte taken in at the top of the register. -/
theorem polynomial_loaded (b : UInt8) :
    polynomial (b.toBitVec.zeroExtend 16 <<< 8) = polynomial b.toBitVec * X ^ 8 := by
  ext i
  rw [coeff_mul_X_pow', coeff_polynomial, coeff_polynomial, BitVec.getLsbD_shiftLeft]
  by_cases hi : 8 ≤ i
  · rw [if_pos hi]
    by_cases hin : i < 16
    · have hlow : ¬i < 8 := by omega
      have hwidth : i - 8 < 16 := by omega
      simp [hin, hlow, hwidth]
    · simp [hin, BitVec.getLsbD_of_ge b.toBitVec (i - 8) (by omega)]
  · rw [if_neg hi]
    simp [Nat.lt_of_not_le hi, coefficient]

theorem mk_shift (r : BitVec 16) :
    AdjoinRoot.mk generator (polynomial (shift r)) = AdjoinRoot.mk generator (X * polynomial r) := by
  rw [← polynomial_shift, map_add, map_mul, AdjoinRoot.mk_self, mul_zero, add_zero]

theorem mk_shifts (n : Nat) (r : BitVec 16) :
    AdjoinRoot.mk generator (polynomial (shifts n r)) =
      AdjoinRoot.mk generator (X ^ n * polynomial r) := by
  induction n generalizing r with
  | zero => rw [shifts, pow_zero, one_mul]
  | succ n ih =>
    have hpower : X ^ n * (X * polynomial r) = X ^ (n + 1) * polynomial r := by ring
    rw [shifts, ih, map_mul, mk_shift, ← map_mul, hpower]

theorem mk_step (r : BitVec 16) (b : UInt8) :
    AdjoinRoot.mk generator (polynomial (step r b)) =
      AdjoinRoot.mk generator (polynomial r * X ^ 8 + polynomial b.toBitVec * X ^ 16) := by
  have hpower : X ^ 8 * (polynomial r + polynomial b.toBitVec * X ^ 8) =
      polynomial r * X ^ 8 + polynomial b.toBitVec * X ^ 16 := by ring
  rw [step, mk_shifts, polynomial_xor, polynomial_loaded, hpower]

/-- The register is, up to a multiple of the generator, what has been taken in with sixteen places
behind it. -/
theorem mk_register (data : Bytes) (r : BitVec 16) :
    AdjoinRoot.mk generator (polynomial (data.foldl step r)) =
      AdjoinRoot.mk generator
        (message data * X ^ 16 + polynomial r * X ^ (8 * data.length)) := by
  induction data generalizing r with
  | nil => simp [message]
  | cons b rest ih =>
    have hpower : message rest * X ^ 16 +
        (polynomial r * X ^ 8 + polynomial b.toBitVec * X ^ 16) * X ^ (8 * rest.length) =
          message (b :: rest) * X ^ 16 + polynomial r * X ^ (8 * (b :: rest).length) := by
      rw [message, List.length_cons]
      ring
    rw [List.foldl_cons, ih, map_add, map_mul _ (polynomial (step r b)), mk_step, ← map_mul,
      ← map_add, hpower]

theorem crc_eq_remainder (seed : UInt16) (data : Bytes) :
    polynomial (crc seed data).toBitVec =
      (message data * X ^ 16 + polynomial seed.toBitVec * X ^ (8 * data.length)) %ₘ generator := by
  have hdvd := AdjoinRoot.mk_eq_mk.mp (mk_register data seed.toBitVec)
  have hdegree : (polynomial (crc seed data).toBitVec).degree < generator.degree := by
    rw [degree_generator]
    exact degree_polynomial _
  rw [← (modByMonic_eq_self_iff generator_monic).mpr hdegree]
  exact modByMonic_eq_of_dvd_sub generator_monic hdvd

theorem coeff_message_ge {data : Bytes} {i : Nat} (hi : 8 * data.length ≤ i) :
    (message data).coeff i = 0 := by
  induction data with
  | nil => rfl
  | cons b rest ih =>
    rw [List.length_cons] at hi
    rw [message, coeff_add, coeff_mul_X_pow', if_pos (by omega), coeff_polynomial,
      BitVec.getLsbD_of_ge _ _ (by omega), ih (by omega)]
    rfl

theorem coeff_message {data : Bytes} {i : Nat} (hi : i < 8 * data.length) :
    (message data).coeff i = coefficient (data.bitAt (8 * data.length - 1 - i)) := by
  induction data with
  | nil => exact absurd hi (Nat.not_lt_zero i)
  | cons b rest ih =>
    rw [List.length_cons] at hi ⊢
    rw [message, coeff_add, coeff_mul_X_pow']
    by_cases hfirst : 8 * rest.length ≤ i
    · have hplace : 8 * (rest.length + 1) - 1 - i < 8 := by omega
      have hback : 8 - 1 - (8 * (rest.length + 1) - 1 - i) = i - 8 * rest.length := by omega
      rw [if_pos hfirst, coeff_message_ge hfirst, add_zero, coeff_polynomial,
        Bytes.bitAt_cons_lt hplace, BitVec.getMsbD, decide_eq_true hplace, Bool.true_and, hback]
    · have hplace : 8 * (rest.length + 1) - 1 - i = 8 * rest.length - 1 - i + 8 := by omega
      rw [if_neg hfirst, zero_add, ih (by omega), hplace, Bytes.bitAt_cons_add]

theorem message_injective {a b : Bytes} (hlength : a.length = b.length)
    (h : message a = message b) : a = b := by
  apply Bytes.eq_of_bitAt hlength
  intro j hj
  have hcoeff := congrArg (coeff · (8 * a.length - 1 - j)) h
  have hback : 8 * a.length - 1 - (8 * a.length - 1 - j) = j := by omega
  rw [coeff_message (by omega), coeff_message (by omega), ← hlength, hback] at hcoeff
  exact coefficient_injective hcoeff

/-- The generator has a constant term. -/
theorem coprime_generator (n : Nat) : IsCoprime generator (X ^ n) := by
  apply IsCoprime.pow_right
  refine ⟨1, -(X ^ 15 + X ^ 11 + X ^ 4), ?_⟩
  rw [generator]
  ring

/-- What spans no more than sixteen places is not divided out, wherever it stands. -/
theorem not_generator_dvd {d : (ZMod 2)[X]} (hd : d ≠ 0) (n : Nat)
    (hlow : ∀ i < n, d.coeff i = 0) (hhigh : ∀ i, n + 16 ≤ i → d.coeff i = 0) :
    ¬generator ∣ d := by
  intro hdvd
  obtain ⟨e, rfl⟩ := X_pow_dvd_iff.mpr hlow
  have hdegree : e.degree < generator.degree := by
    rw [degree_generator]
    apply (degree_lt_iff_coeff_zero _ 16).mpr
    intro i hi
    have hcoeff := hhigh (i + n) (by omega)
    rwa [coeff_X_pow_mul] at hcoeff
  have he := eq_zero_of_dvd_of_degree_lt ((coprime_generator n).dvd_of_dvd_mul_left hdvd) hdegree
  rw [he, mul_zero] at hd
  exact hd rfl

/-- Byte strings with one check differ by a multiple of the generator. -/
theorem generator_dvd_of_crc_eq {seed : UInt16} {a b : Bytes} (hlength : a.length = b.length)
    (h : crc seed a = crc seed b) : generator ∣ message a - message b := by
  have hmk := mk_register a seed.toBitVec
  have hregister : a.foldl step seed.toBitVec = b.foldl step seed.toBitVec :=
    UInt16.toBitVec_inj.mpr h
  rw [hregister, mk_register b, hlength] at hmk
  have hdvd := AdjoinRoot.mk_eq_mk.mp hmk.symm
  rw [add_sub_add_right_eq_sub, ← sub_mul] at hdvd
  exact (coprime_generator 16).dvd_of_dvd_mul_right hdvd

/-- A difference of sixteen places is not divided out, so the remainders differ. -/
theorem crc_burst_ne (seed : UInt16) {a b : Bytes} (hlength : a.length = b.length) (hne : a ≠ b)
    {first : Nat} (hburst : ∀ j < 8 * a.length, a.bitAt j ≠ b.bitAt j →
      first ≤ j ∧ j < first + 16) : crc seed a ≠ crc seed b := by
  have hzero : ∀ i, ¬(8 * a.length ≤ i + first + 16 ∧ i + first < 8 * a.length) →
      (message a - message b).coeff i = 0 := by
    intro i hi
    rw [coeff_sub, sub_eq_zero]
    by_cases hin : i < 8 * a.length
    · rw [coeff_message hin, coeff_message (hlength ▸ hin), ← hlength]
      congr 1
      by_contra hdiffer
      have hplace := hburst _ (by omega) hdiffer
      omega
    · rw [coeff_message_ge (Nat.le_of_not_lt hin), coeff_message_ge (by omega)]
  have hdifference : message a - message b ≠ 0 :=
    fun h => hne (message_injective hlength (sub_eq_zero.mp h))
  intro h
  refine not_generator_dvd hdifference (8 * a.length - (first + 16)) ?_ ?_
    (generator_dvd_of_crc_eq hlength h)
  · exact fun i hi => hzero i (by omega)
  · exact fun i hi => hzero i (by omega)

/-- From any seed the check is the remainder of the seed and the bytes behind it, moved sixteen
places up, and byte strings of one length that differ within sixteen bits in a row have different
checks. -/
theorem crc_long_division (seed : UInt16) :
    (∀ data : Bytes, polynomial (crc seed data).toBitVec =
      (message data * X ^ 16 + polynomial seed.toBitVec * X ^ (8 * data.length)) %ₘ
        (X ^ 16 + X ^ 12 + X ^ 5 + 1)) ∧
    ∀ a b : Bytes, a.length = b.length → a ≠ b → ∀ first,
      (∀ j < 8 * a.length, a.bitAt j ≠ b.bitAt j → first ≤ j ∧ j < first + 16) →
        crc seed a ≠ crc seed b :=
  ⟨crc_eq_remainder seed, fun _ _ hlength hne _ hburst => crc_burst_ne seed hlength hne hburst⟩

/-- All of sixteen bits turned over, from the middle of a byte on. -/
theorem crc_long_division_burst :
    (∀ j < 8 * [0x53, 0x80, 0x08, 0x00].length,
      Bytes.bitAt [0x53, 0x80, 0x08, 0x00] j ≠ Bytes.bitAt [0x5C, 0x7F, 0xF8, 0x00] j →
        4 ≤ j ∧ j < 4 + 16) ∧
      ∀ seed, crc seed [0x53, 0x80, 0x08, 0x00] ≠ crc seed [0x5C, 0x7F, 0xF8, 0x00] := by
  have hburst : ∀ j < 8 * [0x53, 0x80, 0x08, 0x00].length,
      Bytes.bitAt [0x53, 0x80, 0x08, 0x00] j ≠ Bytes.bitAt [0x5C, 0x7F, 0xF8, 0x00] j →
        4 ≤ j ∧ j < 4 + 16 := by decide +kernel
  exact ⟨hburst, fun seed => (crc_long_division seed).2 _ _ rfl (by decide) 4 hburst⟩

end Checksum

end CardReader
