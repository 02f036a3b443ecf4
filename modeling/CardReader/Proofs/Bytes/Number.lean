import CardReader.Bytes.Basic
import Mathlib.Data.Nat.Digits.Lemmas

namespace CardReader.Bytes

/-- The number of a byte string, its first byte highest. -/
def number (data : Bytes) : Nat := Nat.ofDigits 256 (data.reverse.map UInt8.toNat)

theorem number_nil : number [] = 0 := rfl

theorem number_concat (data : Bytes) (b : UInt8) :
    number (data ++ [b]) = b.toNat + 256 * number data := by
  rw [number, List.reverse_concat, List.map_cons, Nat.ofDigits_cons, number]

theorem digits_lt (data : Bytes) : ∀ d ∈ data.reverse.map UInt8.toNat, d < 256 := by
  intro d hd
  obtain ⟨b, -, rfl⟩ := List.mem_map.mp hd
  exact b.toNat_lt

/-- A byte string of `n` bytes is a number below 256 to the power of `n`. -/
theorem number_lt (data : Bytes) : number data < 256 ^ data.length := by
  have hlt := Nat.ofDigits_lt_base_pow_length (by decide) (digits_lt data)
  rwa [List.length_map, List.length_reverse] at hlt

/-- Byte strings of one length that are the same number are equal. -/
theorem number_injective {a b : Bytes} (hlength : a.length = b.length)
    (h : number a = number b) : a = b := by
  have hdigits : (a.reverse.map UInt8.toNat).length = (b.reverse.map UInt8.toNat).length := by
    rw [List.length_map, List.length_map, List.length_reverse, List.length_reverse, hlength]
  have hsame := Nat.ofDigits_inj_of_len_eq (by decide) hdigits (digits_lt a) (digits_lt b) h
  exact List.reverse_inj.mp (List.map_injective_iff.mpr (fun _ _ => UInt8.toNat_inj.mp) hsame)

/-- `data` is `n`, and no byte string but the empty one is the same number on fewer bytes. -/
structure Shortest (data : Bytes) (n : Nat) : Prop where
  ne_nil : data ≠ []
  number_eq : number data = n
  length_le : ∀ other, other ≠ [] → number other = n → data.length ≤ other.length

theorem Shortest.unique {a b : Bytes} {n : Nat} (ha : Shortest a n) (hb : Shortest b n) : a = b :=
  number_injective
    (Nat.le_antisymm (ha.length_le b hb.ne_nil hb.number_eq)
      (hb.length_le a ha.ne_nil ha.number_eq))
    (ha.number_eq.trans hb.number_eq.symm)

end CardReader.Bytes
