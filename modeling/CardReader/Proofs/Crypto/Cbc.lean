import CardReader.Crypto.Cbc
import CardReader.Proofs.Crypto.Aes

namespace CardReader

namespace Block

/-- Bytes that fill `length` bytes up to whole blocks. -/
def padding (length : Nat) : Nat := (size - length % size) % size

def padded (data : Bytes) : Bytes := data ++ List.replicate (padding data.length) 0

theorem padding_lt (length : Nat) : padding length < size := Nat.mod_lt _ (by decide)

theorem toList_ofPrefix (data : Bytes) :
    (ofPrefix data).toList = (data ++ List.replicate size 0).take size := by
  have h : (ofPrefix data).toList = (List.range size).map fun i => data.getD i 0 := rfl
  rw [h]
  apply List.ext_getElem?
  intro i
  by_cases hi : i < size
  · rw [List.getElem?_map, List.getElem?_range hi, List.getElem?_take_of_lt hi, Option.map_some]
    by_cases hd : i < data.length
    · rw [List.getElem?_append_left hd]
      simp [hd]
    · rw [List.getElem?_append_right (by omega), List.getElem?_replicate, if_pos (by omega)]
      simp [hd]
  · rw [List.getElem?_eq_none (by simp; omega), List.getElem?_eq_none (by simp; omega)]

theorem toList_ofPrefix_whole (data : Bytes) (h : size ≤ data.length) :
    (ofPrefix data).toList = data.take size := by
  rw [toList_ofPrefix, List.take_append_of_le_length h]

theorem ofList?_eq_some (data : Bytes) (h : data.length = size) :
    ∃ b, ofList? data = some b ∧ b.toList = data := by
  refine ⟨ofPrefix data, if_pos h, ?_⟩
  rw [toList_ofPrefix_whole data (by omega), List.take_of_length_le (by omega)]

/-- Blocks hold the bytes they were split from, and zeros after them. -/
theorem join_split (data : Bytes) : join (split data) = padded data := by
  fun_induction split data with
  | case1 data h =>
    obtain rfl := List.isEmpty_iff.mp h
    rfl
  | case2 data h ih =>
    change (ofPrefix data).toList ++ join (split (data.drop size)) = padded data
    rw [ih]
    have hne : data ≠ [] := fun e => h (List.isEmpty_iff.mpr e)
    have hpos : 0 < data.length := List.length_pos_iff.mpr hne
    by_cases hw : size ≤ data.length
    · have hp : padding (data.length - size) = padding data.length := by
        unfold padding size at *
        omega
      rw [toList_ofPrefix_whole data hw, padded, padded, List.length_drop, hp,
        ← List.append_assoc, List.take_append_drop]
    · have hd : data.drop size = [] := List.drop_eq_nil_of_le (by omega)
      have hp : padding data.length = size - data.length := by
        unfold padding size at *
        omega
      have hz : padded ([] : Bytes) = [] := rfl
      rw [hd, hz, List.append_nil, toList_ofPrefix, List.take_append,
        List.take_of_length_le (by omega), List.take_replicate, Nat.min_eq_left (by omega), padded,
        hp]

theorem length_join (blocks : List Block) : (join blocks).length = size * blocks.length := by
  induction blocks with
  | nil => rfl
  | cons a rest ih =>
    change (a.toList ++ join rest).length = _
    rw [List.length_append, length_toList, ih, List.length_cons, Nat.mul_succ, Nat.add_comm]

theorem padded_whole (data : Bytes) (h : data.length % size = 0) : padded data = data := by
  have hp : padding data.length = 0 := by
    rw [padding, h]
    rfl
  rw [padded, hp, List.replicate_zero, List.append_nil]

theorem join_split_whole (data : Bytes) (h : data.length % size = 0) :
    join (split data) = data := by
  rw [join_split, padded_whole data h]

/-- A byte string filled up has the length of its blocks. -/
theorem padded_eq (data : Bytes) {length : Nat} (h : length = (padded data).length) :
    padded data = data ++ List.replicate (length - data.length) 0 := by
  rw [h, padded, List.length_append, List.length_replicate, Nat.add_sub_cancel_left]

theorem drop_join (blocks : List Block) : (join blocks).drop size = join blocks.tail := by
  cases blocks with
  | nil => rfl
  | cons a rest => exact drop_toList_append a (join rest)

theorem length_padded (data : Bytes) : (padded data).length = (data.length + 15) / 16 * 16 := by
  rw [padded, List.length_append, List.length_replicate, padding, size]
  omega

end Block

namespace Cbc

theorem decryptBlocks_encryptBlocks (keys : Aes.Schedule) (before : Block) (blocks : List Block) :
    decryptBlocks keys before (encryptBlocks keys before blocks) = blocks := by
  induction blocks generalizing before with
  | nil => rfl
  | cons p rest ih =>
    simp only [encryptBlocks, decryptBlocks]
    rw [ih, Aes.decrypt_encrypt, Block.xor_xor]

theorem encryptBlocks_decryptBlocks (keys : Aes.Schedule) (before : Block) (blocks : List Block) :
    encryptBlocks keys before (decryptBlocks keys before blocks) = blocks := by
  induction blocks generalizing before with
  | nil => rfl
  | cons c rest ih =>
    simp only [encryptBlocks, decryptBlocks]
    rw [Block.xor_xor, Aes.encrypt_decrypt, ih]

theorem length_decryptBlocks (keys : Aes.Schedule) (before : Block) (blocks : List Block) :
    (decryptBlocks keys before blocks).length = blocks.length := by
  induction blocks generalizing before with
  | nil => rfl
  | cons c rest ih => rw [decryptBlocks, List.length_cons, List.length_cons, ih]

theorem length_encryptBlocks (keys : Aes.Schedule) (before : Block) (blocks : List Block) :
    (encryptBlocks keys before blocks).length = blocks.length := by
  induction blocks generalizing before with
  | nil => rfl
  | cons p rest ih => rw [encryptBlocks, List.length_cons, List.length_cons, ih]

theorem length_encipher (key initial : Block) (plain : Bytes) :
    (encipher key initial plain).length = (plain.length + 15) / 16 * 16 := by
  have h := Block.length_padded plain
  rw [← Block.join_split, Block.length_join] at h
  rw [encipher, Block.length_join, length_encryptBlocks, h]

/-- A chain opens to what it was formed from, with zeros up to the end of the last block. -/
theorem decipher_encipher (key initial : Block) (plain : Bytes) :
    decipher key initial (encipher key initial plain) = Block.padded plain := by
  rw [decipher, encipher, Block.split_join, decryptBlocks_encryptBlocks, Block.join_split]

theorem decrypt_encipher (key initial : Block) (plain : Bytes) :
    decrypt key.toList initial.toList (encipher key initial plain) = .ok (Block.padded plain) := by
  have h : (encipher key initial plain).length % Block.size = 0 := by
    rw [length_encipher, Block.size]
    omega
  rw [decrypt, if_neg (by omega), Block.ofList?_toList, Block.ofList?_toList]
  exact congrArg Except.ok (decipher_encipher key initial plain)

theorem encipher_decipher (key initial : Block) (cipherText : Bytes)
    (h : cipherText.length % Block.size = 0) :
    encipher key initial (decipher key initial cipherText) = cipherText := by
  rw [encipher, decipher, Block.split_join, encryptBlocks_decryptBlocks,
    Block.join_split_whole cipherText h]

theorem length_decipher (key initial : Block) (cipherText : Bytes)
    (h : cipherText.length % Block.size = 0) :
    (decipher key initial cipherText).length = cipherText.length := by
  have hwhole := congrArg List.length (Block.join_split_whole cipherText h)
  rw [Block.length_join] at hwhole
  rw [decipher, Block.length_join, length_decryptBlocks, hwhole]

theorem decrypt_whole (key initial : Block) (cipherText : Bytes)
    (h : cipherText.length % Block.size = 0) :
    decrypt key.toList initial.toList cipherText = .ok (decipher key initial cipherText) := by
  rw [decrypt, if_neg (by omega), Block.ofList?_toList, Block.ofList?_toList]

theorem decrypt_partial (key initial cipherText : Bytes)
    (h : cipherText.length % Block.size ≠ 0) :
    decrypt key initial cipherText = .error (.partialBlock cipherText.length) := by
  rw [decrypt, if_pos h]

/-- After the first block nothing depends on the initial value. -/
theorem drop_decipher (key a b : Block) (cipherText : Bytes) :
    (decipher key a cipherText).drop Block.size = (decipher key b cipherText).drop Block.size := by
  rw [decipher, decipher, Block.drop_join, Block.drop_join]
  cases Block.split cipherText <;> rfl

/-- The first block is what the block cipher yields, joined with the initial value. -/
theorem take_decipher (key a b : Block) (cipherText : Bytes) :
    List.zipWith (· ^^^ ·) ((decipher key a cipherText).take Block.size) a.toList =
      List.zipWith (· ^^^ ·) ((decipher key b cipherText).take Block.size) b.toList := by
  rw [decipher, decipher]
  cases Block.split cipherText with
  | nil => rfl
  | cons c rest =>
    have hfirst : ∀ initial : Block, List.zipWith (· ^^^ ·)
        ((Block.join (decryptBlocks (Aes.Schedule.ofKey key) initial (c :: rest))).take Block.size)
          initial.toList = (Aes.decrypt (Aes.Schedule.ofKey key) c).toList := by
      intro initial
      calc
        _ = (((Aes.decrypt (Aes.Schedule.ofKey key) c).xor initial).xor initial).toList := rfl
        _ = (Aes.decrypt (Aes.Schedule.ofKey key) c).toList := by rw [Block.xor_xor]
    rw [hfirst, hfirst]

theorem encrypt_blocks (key initial : Block) (plain : Bytes) :
    encrypt key.toList initial.toList plain = .ok (encipher key initial plain) := by
  rw [encrypt, Block.ofList?_toList, Block.ofList?_toList]

theorem ofList?_misfit {key initial : Bytes}
    (h : key.length ≠ Block.size ∨ initial.length ≠ Block.size) (k i : Block) :
    ¬(Block.ofList? key = some k ∧ Block.ofList? initial = some i) := by
  rintro ⟨hkey, hinitial⟩
  obtain hlength | hlength := h
  · rw [Block.ofList?, if_neg hlength] at hkey
    contradiction
  · rw [Block.ofList?, if_neg hlength] at hinitial
    contradiction

theorem encrypt_misfit {key initial : Bytes}
    (h : key.length ≠ Block.size ∨ initial.length ≠ Block.size) (plain : Bytes) :
    encrypt key initial plain = .error .keyOrInitialLength := by
  unfold encrypt
  split
  · rename_i k i hkey hinitial
    exact absurd ⟨hkey, hinitial⟩ (ofList?_misfit h k i)
  · rfl

theorem decrypt_misfit {key initial : Bytes}
    (h : key.length ≠ Block.size ∨ initial.length ≠ Block.size) {cipherText : Bytes}
    (hwhole : cipherText.length % Block.size = 0) :
    decrypt key initial cipherText = .error .keyOrInitialLength := by
  unfold decrypt
  rw [if_neg (not_not_intro hwhole)]
  split
  · rename_i k i hkey hinitial
    exact absurd ⟨hkey, hinitial⟩ (ofList?_misfit h k i)
  · rfl

/-- The last block of a text that has one. -/
theorem lastBlock?_eq_some (data : Bytes) (h : Block.size ≤ data.length) :
    ∃ b, lastBlock? data = some b ∧ b.toList = data.drop (data.length - Block.size) := by
  rw [lastBlock?, if_neg (by omega)]
  exact Block.ofList?_eq_some _ (by rw [List.length_drop]; omega)

theorem lastBlock?_encipher (key initial : Block) (plain : Bytes) (hp : plain ≠ []) :
    ∃ b, lastBlock? (encipher key initial plain) = some b ∧
      b.toList = (encipher key initial plain).drop
        ((encipher key initial plain).length - Block.size) := by
  have hpos : 0 < plain.length := List.length_pos_iff.mpr hp
  apply lastBlock?_eq_some
  rw [length_encipher, Block.size]
  omega

end Cbc

end CardReader
