import CardReader.Crypto.Aes
import Mathlib.Data.Finite.Prod
import Mathlib.Data.Fintype.Card
import Mathlib.Tactic.Common

namespace CardReader

theorem Column.finite : Finite Column := by
  apply Finite.of_injective fun a : Column => (a.b0.toFin, a.b1.toFin, a.b2.toFin, a.b3.toFin)
  intro a b h
  simp only [Prod.mk.injEq, UInt8.toFin_inj] at h
  obtain ⟨h0, h1, h2, h3⟩ := h
  rw [Column.mk.injEq]
  exact ⟨h0, h1, h2, h3⟩

theorem Block.finite : Finite Block := by
  have := Column.finite
  apply Finite.of_injective fun a : Block => (a.c0, a.c1, a.c2, a.c3)
  intro a b h
  simp only [Prod.mk.injEq] at h
  obtain ⟨h0, h1, h2, h3⟩ := h
  rw [Block.mk.injEq]
  exact ⟨h0, h1, h2, h3⟩

namespace Aes

theorem restore_substitute (b : UInt8) : restore (substitute b) = b := by
  have h : sbox.toList.map (fun c => (inverseSbox.toList.getD c.toNat 0).toNat) =
      List.range 256 := by
    decide +kernel
  have hb := congrArg (·[b.toNat]?) h
  simp only [List.getElem?_map, List.getElem?_range b.toNat_lt] at hb
  obtain ⟨c, hc, hn⟩ := Option.map_eq_some_iff.mp hb
  rw [Array.getElem?_toList] at hc
  rw [restore, substitute, Array.getD_eq_getD_getElem?, Array.getD_eq_getD_getElem?, hc]
  rw [List.getD_eq_getElem?_getD, Array.getElem?_toList] at hn
  exact UInt8.toNat_inj.mp hn

theorem xor_left_comm (a b c : UInt8) : a ^^^ (b ^^^ c) = b ^^^ (a ^^^ c) := by
  rw [← UInt8.xor_assoc, UInt8.xor_comm a b, UInt8.xor_assoc]

theorem xor_cancel_left (a b : UInt8) : a ^^^ (a ^^^ b) = b := by
  rw [← UInt8.xor_assoc, UInt8.xor_self, UInt8.zero_xor]

theorem double_xor (a b : UInt8) : double (a ^^^ b) = double a ^^^ double b := by
  unfold double
  rw [UInt8.toBitVec_xor, BitVec.msb_xor, UInt8.shiftLeft_xor]
  generalize a <<< 1 = x
  generalize b <<< 1 = y
  cases a.toBitVec.msb <;> cases b.toBitVec.msb
  · rfl
  · exact UInt8.xor_assoc x y 0x1b
  · change x ^^^ y ^^^ 0x1b = x ^^^ 0x1b ^^^ y
    rw [UInt8.xor_assoc, UInt8.xor_comm y, UInt8.xor_assoc]
  · change x ^^^ y = x ^^^ 0x1b ^^^ (y ^^^ 0x1b)
    rw [UInt8.xor_comm y, UInt8.xor_assoc x, xor_cancel_left]

/-- Products with the coefficients of the inverse mix. -/
def nine (b : UInt8) : UInt8 := double (double (double b)) ^^^ b
def eleven (b : UInt8) : UInt8 := double (double (double b) ^^^ b) ^^^ b
def thirteen (b : UInt8) : UInt8 := double (double (double b ^^^ b)) ^^^ b
def fourteen (b : UInt8) : UInt8 := double (double (double b ^^^ b) ^^^ b)

theorem nine_xor (a b : UInt8) : nine (a ^^^ b) = nine a ^^^ nine b := by
  simp only [nine, double_xor]
  ac_rfl

theorem eleven_xor (a b : UInt8) : eleven (a ^^^ b) = eleven a ^^^ eleven b := by
  simp only [eleven, double_xor]
  ac_rfl

theorem thirteen_xor (a b : UInt8) : thirteen (a ^^^ b) = thirteen a ^^^ thirteen b := by
  simp only [thirteen, double_xor]
  ac_rfl

theorem fourteen_xor (a b : UInt8) : fourteen (a ^^^ b) = fourteen a ^^^ fourteen b := by
  simp only [fourteen, double_xor]
  ac_rfl

/-- The rows of the inverse mix against the columns of the mix. -/
theorem unmix_coefficients (b : UInt8) :
    fourteen (double b) ^^^ eleven b ^^^ thirteen b ^^^ nine (double b ^^^ b) = b ∧
    fourteen (double b ^^^ b) ^^^ eleven (double b) ^^^ thirteen b ^^^ nine b = 0 ∧
    fourteen b ^^^ eleven (double b ^^^ b) ^^^ thirteen (double b) ^^^ nine b = 0 ∧
    fourteen b ^^^ eleven b ^^^ thirteen (double b ^^^ b) ^^^ nine (double b) = 0 := by
  refine ⟨?_, ?_, ?_, ?_⟩ <;>
    simp only [nine, eleven, thirteen, fourteen, double_xor, UInt8.xor_assoc, UInt8.xor_comm,
      xor_left_comm, xor_cancel_left, UInt8.xor_self, UInt8.xor_zero]

/-- One row of the inverse mix, applied to the four rows of the mix. -/
theorem unmix_row (p q r s : UInt8) :
    fourteen (double p ^^^ (double q ^^^ q) ^^^ r ^^^ s) ^^^
      eleven (double q ^^^ (double r ^^^ r) ^^^ s ^^^ p) ^^^
      thirteen (double r ^^^ (double s ^^^ s) ^^^ p ^^^ q) ^^^
      nine (double s ^^^ (double p ^^^ p) ^^^ q ^^^ r) = p := by
  have hp := (unmix_coefficients p).1
  have hq := (unmix_coefficients q).2.1
  have hr := (unmix_coefficients r).2.2.1
  have hs := (unmix_coefficients s).2.2.2
  rw [fourteen_xor _ s, fourteen_xor _ r, fourteen_xor (double p), eleven_xor _ p, eleven_xor _ s,
    eleven_xor (double q), thirteen_xor _ q, thirteen_xor _ p, thirteen_xor (double r),
    nine_xor _ r, nine_xor _ q, nine_xor (double s)]
  calc
    _ = (fourteen (double p) ^^^ eleven p ^^^ thirteen p ^^^ nine (double p ^^^ p)) ^^^
        (fourteen (double q ^^^ q) ^^^ eleven (double q) ^^^ thirteen q ^^^ nine q) ^^^
        (fourteen r ^^^ eleven (double r ^^^ r) ^^^ thirteen (double r) ^^^ nine r) ^^^
        (fourteen s ^^^ eleven s ^^^ thirteen (double s ^^^ s) ^^^ nine (double s)) := by ac_rfl
    _ = p := by rw [hp, hq, hr, hs]; simp only [UInt8.xor_zero]

/-- The inverse mix is linear, so it is enough to multiply out the coefficients of the two mixes. -/
theorem unmixColumn_mixColumn (a : Column) : unmixColumn (mixColumn a) = a := by
  have h0 := unmix_row a.b0 a.b1 a.b2 a.b3
  have h1 := unmix_row a.b1 a.b2 a.b3 a.b0
  have h2 := unmix_row a.b2 a.b3 a.b0 a.b1
  have h3 := unmix_row a.b3 a.b0 a.b1 a.b2
  simp only [fourteen, eleven, thirteen, nine] at h0 h1 h2 h3
  simp only [unmixColumn, mixColumn, h0, h1, h2, h3]

theorem unmixColumns_mixColumns (s : Block) :
    mapColumns unmixColumn (mapColumns mixColumn s) = s := by
  simp only [mapColumns, unmixColumn_mixColumn]

theorem unshiftRows_shiftRows (s : Block) : unshiftRows (shiftRows s) = s := rfl

theorem map_restore_substitute (s : Block) : (s.map substitute).map restore = s := by
  simp only [Block.map, Column.map, restore_substitute]

/-- By induction over the round keys: each step of a round is undone by its inverse, the last step
first. -/
theorem decryptRounds_encryptRounds (keys : List Block) (s : Block) :
    decryptRounds keys (encryptRounds keys s) = s := by
  induction keys generalizing s with
  | nil => rfl
  | cons k rest ih =>
    cases rest with
    | nil =>
      change (unshiftRows (((shiftRows (s.map substitute)).xor k).xor k)).map restore = s
      rw [Block.xor_xor, unshiftRows_shiftRows, map_restore_substitute]
    | cons k' rest =>
      have hr := ih ((mapColumns mixColumn (shiftRows (s.map substitute))).xor k)
      change (unshiftRows (mapColumns unmixColumn
        ((decryptRounds (k' :: rest) (encryptRounds (k' :: rest) _)).xor k))).map restore = s
      rw [hr, Block.xor_xor, unmixColumns_mixColumns, unshiftRows_shiftRows,
        map_restore_substitute]

theorem decrypt_encrypt (keys : Schedule) (b : Block) : decrypt keys (encrypt keys b) = b := by
  rw [decrypt, encrypt, decryptRounds_encryptRounds, Block.xor_xor]

/-- There are finitely many blocks, so what deciphering undoes is undone by it as well. -/
theorem encrypt_decrypt (keys : Schedule) (b : Block) : encrypt keys (decrypt keys b) = b := by
  have := Block.finite
  have hinj : Function.Injective (encrypt keys) :=
    Function.LeftInverse.injective (decrypt_encrypt keys)
  obtain ⟨p, rfl⟩ := Finite.injective_iff_surjective.mp hinj b
  rw [decrypt_encrypt]

end Aes

end CardReader
