import CardReader.Bytes.Hex
import CardReader.Proofs.Bytes.Number

namespace CardReader.Hex

open Bytes

def nibbles (b : UInt8) : List UInt8 := [b / 16, b % 16]

theorem value?_lt {b v : UInt8} (h : value? b = some v) : v.toNat < 16 := by
  have hall : ∀ n : Fin 256, (value? (UInt8.ofNat n)).all (·.toNat < 16) := by decide +kernel
  have hb := hall ⟨b.toNat, b.toNat_lt⟩
  dsimp only at hb
  rw [UInt8.ofNat_toNat, h] at hb
  exact of_decide_eq_true hb

theorem nibbles_byte {x y : UInt8} (hx : x.toNat < 16) (hy : y.toNat < 16) :
    nibbles (x * 16 + y) = [x, y] := by
  have hbyte : (x * 16 + y).toNat = x.toNat * 16 + y.toNat := by
    rw [UInt8.toNat_add, UInt8.toNat_mul, show (16 : UInt8).toNat = 16 from rfl]
    omega
  have hhigh : (x * 16 + y) / 16 = x := by
    apply UInt8.toNat_inj.mp
    rw [UInt8.toNat_div, hbyte, show (16 : UInt8).toNat = 16 from rfl]
    omega
  have hlow : (x * 16 + y) % 16 = y := by
    apply UInt8.toNat_inj.mp
    rw [UInt8.toNat_mod, hbyte, show (16 : UInt8).toNat = 16 from rfl]
    omega
  rw [nibbles, hhigh, hlow]

theorem byte_nibbles (b : UInt8) : b / 16 * 16 + b % 16 = b := by grind

theorem length_nibbles (data : Bytes) : (data.flatMap nibbles).length = 2 * data.length := by
  induction data with
  | nil => rfl
  | cons b data ih =>
    rw [List.flatMap_cons, List.length_append, ih, List.length_cons]
    exact Nat.add_comm 2 _

/-- Digits in pairs are the digits of bytes. -/
theorem exists_nibbles (digits : List UInt8) (heven : digits.length % 2 = 0)
    (hsmall : ∀ d ∈ digits, d.toNat < 16) : ∃ data : Bytes, data.flatMap nibbles = digits := by
  match digits with
  | [] => exact ⟨[], rfl⟩
  | [_] => contradiction
  | x :: y :: rest =>
    rw [List.forall_mem_cons, List.forall_mem_cons] at hsmall
    obtain ⟨hx, hy, hrest⟩ := hsmall
    obtain ⟨data, hdata⟩ := exists_nibbles rest (by rw [← heven]; simp; omega) hrest
    exact ⟨(x * 16 + y) :: data, by rw [List.flatMap_cons, nibbles_byte hx hy, hdata]; rfl⟩

/-- The number of a byte string is the number that its digits are in base 16. -/
theorem number_nibbles (data : Bytes) :
    number data = Nat.ofDigits 16 ((data.flatMap nibbles).reverse.map UInt8.toNat) := by
  induction data using List.reverseRecOn with
  | nil => rfl
  | append_singleton data b ih =>
    have hpair : ((nibbles b).reverse.map UInt8.toNat) = [b.toNat % 16, b.toNat / 16] := rfl
    rw [number_concat, List.flatMap_append, List.flatMap_singleton, List.reverse_append,
      List.map_append, hpair, Nat.ofDigits_append, ← ih, Nat.ofDigits_cons, Nat.ofDigits_singleton]
    change _ = _ + 256 * _
    omega

/-- Only a text of the digits of a byte string is read as that byte string. -/
theorem of_decodeFrom_ok {position : Nat} {text data : Bytes}
    (h : decodeFrom position text = .ok data) :
    text.map value? = (data.flatMap nibbles).map some := by
  fun_induction decodeFrom position text generalizing data with
  | case3 position a b rest x y hb ha bytes hrest ih =>
    cases h
    rw [List.map_cons, List.map_cons, ih hrest, ha, hb, List.flatMap_cons,
      nibbles_byte (value?_lt ha) (value?_lt hb)]
    rfl
  | case6 => cases h; rfl
  | _ => contradiction

/-- Digits in pairs are read as the bytes that they are the halves of. -/
theorem decodeFrom_nibbles (position : Nat) {text data : Bytes}
    (h : text.map value? = (data.flatMap nibbles).map some) :
    decodeFrom position text = .ok data := by
  induction data generalizing position text with
  | nil =>
    rw [List.flatMap_nil, List.map_nil, List.map_eq_nil_iff] at h
    rw [h, decodeFrom]
  | cons c data ih =>
    rw [List.flatMap_cons, nibbles, List.cons_append, List.cons_append, List.nil_append,
      List.map_cons, List.map_cons, List.map_eq_cons_iff] at h
    obtain ⟨a, text, rfl, ha, h⟩ := h
    obtain ⟨b, rest, rfl, hb, hrest⟩ := List.map_eq_cons_iff.mp h
    rw [decodeFrom, ha, hb]
    dsimp only
    rw [ih (position + 2) hrest, byte_nibbles]

/-- A text is read if and only if it consists of the digits of bytes, which are then the result. -/
theorem decode_ok_iff {text data : Bytes} :
    decode text = .ok data ↔ text.map value? = (data.flatMap nibbles).map some := by
  unfold decode
  constructor
  · intro h
    by_cases hodd : text.length % 2 = 1
    · rw [if_pos hodd] at h
      contradiction
    · rw [if_neg hodd] at h
      exact of_decodeFrom_ok h
  · intro h
    have hlength := congrArg List.length h
    rw [List.length_map, List.length_map, length_nibbles] at hlength
    rw [if_neg (by omega), decodeFrom_nibbles 0 h]

theorem length_of_decode_ok {text data : Bytes} (h : decode text = .ok data) :
    text.length = 2 * data.length := by
  have hlength := congrArg List.length (decode_ok_iff.mp h)
  rwa [List.length_map, List.length_map, length_nibbles] at hlength

end CardReader.Hex
