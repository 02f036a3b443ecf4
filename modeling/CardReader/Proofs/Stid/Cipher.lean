import CardReader.Proofs.Crypto.Cbc
import CardReader.Stid.Secret

namespace CardReader.Stid

open Cbc

/-- Under a key and an initial value of sixteen bytes each, every byte string is enciphered to whole
blocks, no more than it takes, and deciphered to itself and zeros; and every string of whole blocks
is deciphered to one that is enciphered back to it. Another initial value changes the first
deciphered block, by what the two values differ in, and no other. All else is a failure of the
cipher. -/
theorem cipher_inverse (key initial data : Bytes) :
    (key.length = 16 → initial.length = 16 →
      (∃ sealed, ofCipher (encrypt key initial data) = .ok sealed ∧
        sealed.length = (data.length + 15) / 16 * 16 ∧
        ofCipher (decrypt key initial sealed) =
          .ok (data ++ List.replicate (sealed.length - data.length) 0)) ∧
      (data.length % 16 = 0 → ∃ plain, ofCipher (decrypt key initial data) = .ok plain ∧
        ofCipher (encrypt key initial plain) = .ok data ∧
        ∀ other : Bytes, other.length = 16 →
          ∃ changed, ofCipher (decrypt key other data) = .ok changed ∧
            changed.length = plain.length ∧ changed.drop 16 = plain.drop 16 ∧
            List.zipWith (· ^^^ ·) (changed.take 16) other =
              List.zipWith (· ^^^ ·) (plain.take 16) initial)) ∧
      (key.length ≠ 16 ∨ initial.length ≠ 16 →
        ofCipher (encrypt key initial data) = .error (.cipher .keyOrInitialLength) ∧
        ∃ cause, ofCipher (decrypt key initial data) = .error (.cipher cause)) ∧
      (data.length % 16 ≠ 0 →
        ofCipher (decrypt key initial data) = .error (.cipher (.partialBlock data.length))) := by
  refine ⟨fun hkey hinitial => ?_, fun hlength => ?_, fun hpartial => ?_⟩
  · obtain ⟨k, -, rfl⟩ := Block.ofList?_eq_some key hkey
    obtain ⟨i, -, rfl⟩ := Block.ofList?_eq_some initial hinitial
    refine ⟨⟨encipher k i data, ?_, length_encipher k i data, ?_⟩, fun hwhole => ?_⟩
    · rw [encrypt_blocks, ofCipher]
    · have hlength : (encipher k i data).length = (Block.padded data).length := by
        rw [length_encipher, Block.length_padded]
      rw [decrypt_encipher, ofCipher, Block.padded_eq data hlength]
    · refine ⟨decipher k i data, ?_, ?_, fun other hother => ?_⟩
      · rw [decrypt_whole k i data hwhole, ofCipher]
      · rw [encrypt_blocks, ofCipher, encipher_decipher k i data hwhole]
      · obtain ⟨o, -, rfl⟩ := Block.ofList?_eq_some other hother
        refine ⟨decipher k o data, ?_, ?_, drop_decipher k o i data, take_decipher k o i data⟩
        · rw [decrypt_whole k o data hwhole, ofCipher]
        · rw [length_decipher k o data hwhole, length_decipher k i data hwhole]
  · refine ⟨by rw [encrypt_misfit hlength, ofCipher], ?_⟩
    by_cases hwhole : data.length % 16 = 0
    · exact ⟨_, by rw [decrypt_misfit hlength hwhole, ofCipher]⟩
    · exact ⟨_, by rw [decrypt_partial key initial data hwhole, ofCipher]⟩
  · rw [decrypt_partial key initial data hpartial, ofCipher]

/-- Three bytes, two blocks, and a key that is too short. -/
theorem cipher_inverse_sizes :
    let key : Bytes := List.range 16 |>.map UInt8.ofNat
    let zeros : Bytes := List.replicate 16 0
    let ones : Bytes := List.replicate 16 1
    let blocks : Bytes := List.replicate 32 7
    (∃ sealed, ofCipher (encrypt key zeros [1, 2, 3]) = .ok sealed ∧ sealed.length = 16 ∧
        ofCipher (decrypt key zeros sealed) = .ok ([1, 2, 3] ++ List.replicate 13 0)) ∧
      (∃ plain changed, ofCipher (decrypt key zeros blocks) = .ok plain ∧
        ofCipher (encrypt key zeros plain) = .ok blocks ∧
        ofCipher (decrypt key ones blocks) = .ok changed ∧ changed.drop 16 = plain.drop 16) ∧
      ofCipher (encrypt [1, 2] zeros blocks) = .error (.cipher .keyOrInitialLength) ∧
      ofCipher (decrypt key zeros [1, 2, 3]) = .error (.cipher (.partialBlock 3)) := by
  intro key zeros ones blocks
  have hkey : key.length = 16 := rfl
  have hzeros : zeros.length = 16 := rfl
  have hblocks : blocks.length % 16 = 0 := by decide
  refine ⟨?_, ?_, ?_, ?_⟩
  · obtain ⟨sealed, hsealed, hlength, hplain⟩ :=
      ((cipher_inverse key zeros [1, 2, 3]).1 hkey hzeros).1
    have hsize : sealed.length = 16 := hlength
    rw [hsize] at hplain
    exact ⟨sealed, hsealed, hsize, hplain⟩
  · obtain ⟨plain, hplain, hback, hother⟩ :=
      ((cipher_inverse key zeros blocks).1 hkey hzeros).2 hblocks
    obtain ⟨changed, hchanged, -, hdrop, -⟩ := hother ones rfl
    exact ⟨plain, changed, hplain, hback, hchanged, hdrop⟩
  · exact ((cipher_inverse [1, 2] zeros blocks).2.1 (.inl (by decide))).1
  · exact (cipher_inverse key zeros [1, 2, 3]).2.2 (by decide)

end CardReader.Stid
