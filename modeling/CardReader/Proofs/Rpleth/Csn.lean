import CardReader.Rpleth.Csn
import Mathlib.Data.List.GetD

namespace CardReader.Rpleth.Csn

def bitOf (data : Bytes) (n : Nat) : Bool :=
  (data.getD (data.length - 1 - n / 8) 0).toNat.testBit (n % 8)

section

variable {n k : Nat}

/-- A byte is its eight bits. -/
theorem byte_ext {b c : UInt8} (h : ∀ k < 8, b.toNat.testBit k = c.toNat.testBit k) : b = c := by
  apply UInt8.toNat_inj.mp
  apply Nat.eq_of_testBit_eq
  intro k
  by_cases hk : k < 8
  · exact h k hk
  · have hpow : 256 ≤ 2 ^ k := Nat.pow_le_pow_right (n := 2) (by omega) (show 8 ≤ k by omega)
    have hb : b.toNat < 256 := b.toNat_lt
    have hc : c.toNat < 256 := c.toNat_lt
    rw [Nat.testBit_lt_two_pow (by omega), Nat.testBit_lt_two_pow (by omega)]

theorem bitOf_reverse {data : Bytes} (h : n < 8 * data.length) :
    bitOf data n = (data.reverse.getD (n / 8) 0).toNat.testBit (n % 8) := by
  unfold bitOf
  rw [List.getD_eq_getElem?_getD, List.getD_eq_getElem?_getD, List.getElem?_reverse (by omega)]

/-- Byte strings of one length with the same bits are equal. -/
theorem bytes_ext {a b : Bytes} (hlength : a.length = b.length)
    (h : ∀ n < 8 * a.length, bitOf a n = bitOf b n) : a = b := by
  apply List.reverse_inj.mp
  apply List.ext_getElem
  · rw [List.length_reverse, List.length_reverse, hlength]
  · intro j hj hj'
    apply byte_ext
    intro k hk
    rw [List.length_reverse] at hj
    have hbit := h (8 * j + k) (by omega)
    rw [bitOf_reverse (by omega), bitOf_reverse (by omega), show (8 * j + k) / 8 = j by omega,
      show (8 * j + k) % 8 = k by omega, List.getD_eq_getElem?_getD, List.getD_eq_getElem?_getD,
      List.getElem?_eq_getElem (by rwa [List.length_reverse]), List.getElem?_eq_getElem hj'] at hbit
    exact hbit

end

theorem bits_length (b : UInt8) : (bits b).length = 8 := by
  rw [bits, List.length_map, List.length_range]

theorem bits_getD (b : UInt8) {k : Nat} (hk : k < 8) :
    (bits b).getD k false = b.toNat.testBit k := by
  rw [bits, List.getD_eq_getElem?_getD, List.getElem?_map, List.getElem?_range hk]
  rfl

theorem bits_flatMap_length (data : Bytes) : (data.flatMap bits).length = 8 * data.length := by
  induction data with
  | nil => rfl
  | cons b rest ih =>
    rw [List.flatMap_cons, List.length_append, bits_length, ih, List.length_cons]
    omega

theorem bits_flatMap_getD (data : Bytes) (j : Nat) {k : Nat} (hk : k < 8) :
    (data.flatMap bits).getD (8 * j + k) false = (data.getD j 0).toNat.testBit k := by
  induction data generalizing j with
  | nil => simp
  | cons b rest ih =>
    rw [List.flatMap_cons]
    cases j with
    | zero =>
      rw [List.getD_append _ _ _ _ (by rw [bits_length]; omega), Nat.mul_zero, Nat.zero_add,
        bits_getD b hk]
      rfl
    | succ j =>
      rw [List.getD_append_right _ _ _ _ (by rw [bits_length]; omega), bits_length,
        show 8 * (j + 1) + k - 8 = 8 * j + k by omega, ih]
      rfl

/-- The bits that a number is made of are its binary digits. -/
theorem value_testBit (field : List Bool) (k : Nat) :
    (value field).testBit k = field.getD k false := by
  induction field generalizing k with
  | nil => simp [value]
  | cons b rest ih =>
    cases k with
    | zero =>
      rw [value, Nat.testBit_zero]
      cases b <;> simp
    | succ k =>
      have hhalf : (b.toNat + 2 * value rest) / 2 = value rest := by
        have hbit := b.toNat_lt
        omega
      rw [value, Nat.testBit_succ, hhalf, ih]
      rfl

theorem packed_testBit (field : List Bool) {k : Nat} (hk : k < 8) :
    (UInt8.ofNat (value (field.take 8))).toNat.testBit k = field.getD k false := by
  rw [UInt8.toNat_ofNat', Nat.testBit_mod_two_pow, value_testBit, List.getD_eq_getElem?_getD,
    List.getElem?_take_of_lt hk, decide_eq_true hk, Bool.true_and]
  rfl

theorem pack_length (field : List Bool) : (pack field).length = (field.length + 7) / 8 := by
  induction field using pack.induct with
  | case1 => rw [pack]; rfl
  | case2 b rest ih =>
    rw [pack, List.length_cons, ih, List.length_drop, List.length_cons]
    omega

theorem pack_testBit (field : List Bool) (j : Nat) {k : Nat} (hk : k < 8) :
    ((pack field).getD j 0).toNat.testBit k = field.getD (8 * j + k) false := by
  induction field using pack.induct generalizing j with
  | case1 => simp [pack]
  | case2 b rest ih =>
    rw [pack]
    cases j with
    | zero =>
      rw [Nat.mul_zero, Nat.zero_add]
      exact packed_testBit _ hk
    | succ j =>
      rw [List.getD_cons_succ, ih, show 8 * (j + 1) + k = 8 * j + k + 7 + 1 by omega,
        List.getD_cons_succ, List.getD_eq_getElem?_getD, List.getD_eq_getElem?_getD,
        List.getElem?_drop, Nat.add_comm 7]

/-- Packing keeps the bits, and puts the lowest one last. -/
theorem bitOf_pack (field : List Bool) {n : Nat} (h : n < 8 * (pack field).length) :
    bitOf (pack field).reverse n = field.getD n false := by
  rw [bitOf_reverse (by rwa [List.length_reverse]), List.reverse_reverse,
    pack_testBit field _ (Nat.mod_lt n (by omega)), show 8 * (n / 8) + n % 8 = n by omega]

theorem field_length {frame : Bytes} {length offset : Nat}
    (h : length + offset ≤ 8 * frame.length) : (field frame length offset).length = length := by
  rw [field, List.length_take, List.length_drop, bits_flatMap_length, List.length_reverse]
  omega

theorem field_getD {frame : Bytes} {length offset n : Nat} (h : n < length)
    (hinside : offset + n < 8 * frame.length) :
    (field frame length offset).getD n false = bitOf frame (offset + n) := by
  rw [field, List.getD_eq_getElem?_getD, List.getElem?_take_of_lt h, List.getElem?_drop,
    ← List.getD_eq_getElem?_getD, bitOf_reverse hinside,
    ← bits_flatMap_getD _ _ (Nat.mod_lt _ (by omega)),
    show 8 * ((offset + n) / 8) + (offset + n) % 8 = offset + n by omega]

end CardReader.Rpleth.Csn
