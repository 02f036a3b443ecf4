namespace CardReader

/-- Bytes in the order they travel over a line. -/
abbrev Bytes := List UInt8

namespace Bytes

/-- Upper half of a two-byte number. -/
def high (w : UInt16) : UInt8 := UInt8.ofNat (w.toNat / 256)

/-- Lower half of a two-byte number. -/
def low (w : UInt16) : UInt8 := UInt8.ofNat w.toNat

/-- The number whose halves are `hi` and `lo`. -/
def word (hi lo : UInt8) : UInt16 := UInt16.ofNat (hi.toNat * 256 + lo.toNat)

def bigEndian (w : UInt16) : Bytes := [high w, low w]

def littleEndian (w : UInt16) : Bytes := [low w, high w]

theorem word_toNat (hi lo : UInt8) : (word hi lo).toNat = hi.toNat * 256 + lo.toNat := by
  have h := hi.toNat_lt
  have l := lo.toNat_lt
  simp only [word, UInt16.toNat_ofNat']
  omega

theorem word_high_low (w : UInt16) : word (high w) (low w) = w := by
  apply UInt16.toNat_inj.mp
  have h := w.toNat_lt
  rw [word_toNat]
  simp only [high, low, UInt8.toNat_ofNat']
  omega

theorem high_word (hi lo : UInt8) : high (word hi lo) = hi := by
  apply UInt8.toNat_inj.mp
  have h := hi.toNat_lt
  have l := lo.toNat_lt
  simp only [high, word_toNat, UInt8.toNat_ofNat']
  omega

theorem low_word (hi lo : UInt8) : low (word hi lo) = lo := by
  apply UInt8.toNat_inj.mp
  have h := hi.toNat_lt
  have l := lo.toNat_lt
  simp only [low, word_toNat, UInt8.toNat_ofNat']
  omega

end Bytes

end CardReader
