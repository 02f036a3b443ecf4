import CardReader.Proofs.Bytes.Hex
import CardReader.Text.Blank
import CardReader.Text.Lossy

namespace CardReader.Hex

open Text

/-- A character is a hexadecimal digit, in either case. -/
def IsDigit (c : Char) : Prop := c.toLower ∈ "0123456789abcdef".toList

instance : DecidablePred IsDigit := fun c => inferInstanceAs (Decidable (c.toLower ∈ _))

/-- A text is the hexadecimal digits of a byte string, each of them in either case. -/
def Spells (text : List Char) (data : Bytes) : Prop := lowered text = (lower data).toList

instance (text : List Char) (data : Bytes) : Decidable (Spells text data) :=
  inferInstanceAs (Decidable (lowered text = (lower data).toList))

/-- The digit of a value in bytes. -/
def digitOf (v : UInt8) : Char := digit 'a' v.toNat

theorem digitOf_mem {v : UInt8} (h : v.toNat < 16) : digitOf v ∈ "0123456789abcdef".toList := by
  have hall : ∀ n : Fin 16, digit 'a' n ∈ "0123456789abcdef".toList := by decide
  exact hall ⟨v.toNat, h⟩

theorem digitOf_injective {v w : UInt8} (hv : v.toNat < 16) (hw : w.toNat < 16)
    (h : digitOf v = digitOf w) : v = w := by
  have hall : ∀ m n : Fin 16, digit 'a' m = digit 'a' n → m = n := by decide
  exact UInt8.toNat_inj.mp (Fin.mk.inj (hall ⟨v.toNat, hv⟩ ⟨w.toNat, hw⟩ h))

theorem lower_nibbles (data : Bytes) :
    (lower data).toList = (data.flatMap nibbles).map digitOf := by
  rw [lower, String.toList_ofList, List.map_flatMap]
  rfl

theorem nibbles_lt (data : Bytes) : ∀ v ∈ data.flatMap nibbles, v.toNat < 16 := by
  intro v hv
  obtain ⟨b, -, hb⟩ := List.mem_flatMap.mp hv
  have hlt := b.toNat_lt
  rw [nibbles, List.mem_pair] at hb
  obtain rfl | rfl := hb
  · rw [UInt8.toNat_div, show (16 : UInt8).toNat = 16 from rfl]
    omega
  · rw [UInt8.toNat_mod, show (16 : UInt8).toNat = 16 from rfl]
    omega

theorem exists_ascii {c : Char} (h : c.toNat < 128) : ∃ n : Fin 128, c = Char.ofNat n :=
  ⟨⟨c.toNat, h⟩, (Char.ofNat_toNat c).symm⟩

theorem IsDigit.ascii {c : Char} (h : IsDigit c) : c.toNat < 128 := by
  unfold IsDigit Char.toLower at h
  split at h
  · rename_i hcapital
    have hmost : c.toNat ≤ 90 := UInt32.le_iff_toNat_le.mp hcapital.2
    omega
  · have hall : ("0123456789abcdef".toList.all (·.toNat < 128)) = true := by decide
    exact of_decide_eq_true (List.all_eq_true.mp hall c h)

/-- A digit takes one byte, which is read as its value. -/
theorem value?_isDigit {c : Char} (h : IsDigit c) : ∃ v : UInt8, v.toNat < 16 ∧
    c.toLower = digitOf v ∧ (String.utf8EncodeChar c).map value? = [some v] := by
  have hall : ∀ n : Fin 128, IsDigit (Char.ofNat n) → ∃ v : Fin 16,
      (Char.ofNat n).toLower = digit 'a' v ∧
        (String.utf8EncodeChar (Char.ofNat n)).map value? = [some (UInt8.ofNat v)] := by
    decide +kernel
  obtain ⟨n, rfl⟩ := exists_ascii h.ascii
  obtain ⟨v, hlower, hvalue⟩ := hall n h
  have hv : (UInt8.ofNat v).toNat = v := UInt8.toNat_ofNat_of_lt' (Nat.lt_trans v.isLt (by decide))
  exact ⟨UInt8.ofNat v, by omega, by rw [digitOf, hv, hlower], hvalue⟩

/-- Every byte of a character beyond ASCII is above those of the digits. -/
theorem value?_wide {c : Char} (h : 128 ≤ c.toNat) :
    none ∈ (String.utf8EncodeChar c).map value? := by
  have hhigh : ∀ n : Nat, value? (UInt8.ofNat (n % 64 + 128)) = none := by
    intro n
    have hall : ∀ n : Fin 64, value? (UInt8.ofNat (n + 128)) = none := by decide +kernel
    exact hall ⟨n % 64, Nat.mod_lt n (by decide)⟩
  have hwide : ¬c.val.toNat ≤ 127 := Nat.not_le.mpr h
  -- The last byte of such a character carries its lowest six bits.
  have hlast : UInt8.ofNat (c.val.toNat % 64 + 128) ∈ String.utf8EncodeChar c := by
    unfold String.utf8EncodeChar
    dsimp only
    rw [if_neg hwide]
    split_ifs <;> simp
  exact List.mem_map.mpr ⟨_, hlast, hhigh _⟩

theorem value?_not_isDigit {c : Char} (h : ¬IsDigit c) :
    none ∈ (String.utf8EncodeChar c).map value? := by
  by_cases hascii : c.toNat < 128
  · have hall : ∀ n : Fin 128, ¬IsDigit (Char.ofNat n) →
        none ∈ (String.utf8EncodeChar (Char.ofNat n)).map value? := by
      decide +kernel
    obtain ⟨n, rfl⟩ := exists_ascii hascii
    exact hall n h
  · exact value?_wide (Nat.le_of_not_lt hascii)

/-- The bytes of a text are read as values if and only if the text is the digits of these values. -/
theorem encode_values_iff (text : List Char) {values : List UInt8}
    (hsmall : ∀ v ∈ values, v.toNat < 16) :
    (Utf8.encode text).map value? = values.map some ↔ lowered text = values.map digitOf := by
  induction text generalizing values with
  | nil => cases values <;> simp [Utf8.encode, lowered]
  | cons c text ih =>
    rw [Utf8.encode] at ih ⊢
    rw [lowered] at ih ⊢
    rw [List.flatMap_cons, List.map_append, List.map_cons]
    by_cases hdigit : IsDigit c
    · obtain ⟨v, hv, hlower, hvalue⟩ := value?_isDigit hdigit
      rw [hlower, hvalue]
      cases values with
      | nil => simp
      | cons w values =>
        obtain ⟨hw, hvalues⟩ := List.forall_mem_cons.mp hsmall
        rw [List.map_cons, List.map_cons, List.singleton_append, List.cons_eq_cons,
          List.cons_eq_cons, ih hvalues, Option.some_inj]
        refine and_congr_left fun _ => ⟨fun h => congrArg digitOf h, digitOf_injective hv hw⟩
    · refine iff_of_false (fun h => ?_) fun h => ?_
      · have hnone : none ∈ values.map some :=
          h ▸ List.mem_append_left _ (value?_not_isDigit hdigit)
        obtain ⟨v, -, hv⟩ := List.mem_map.mp hnone
        contradiction
      · have hmem : c.toLower ∈ values.map digitOf := h ▸ List.mem_cons_self
        obtain ⟨v, hv, hlower⟩ := List.mem_map.mp hmem
        rw [IsDigit, ← hlower] at hdigit
        exact hdigit (digitOf_mem (hsmall v hv))

/-- Exactly the texts that spell a byte string are read as it. -/
theorem decode_encode_ok_iff (text : List Char) (data : Bytes) :
    decode (Utf8.encode text) = .ok data ↔ Spells text data := by
  rw [decode_ok_iff, encode_values_iff text (nibbles_lt data), Spells, lower_nibbles]

theorem Spells.unique {text : List Char} {a b : Bytes} (ha : Spells text a) (hb : Spells text b) :
    a = b := by
  rw [← decode_encode_ok_iff] at ha hb
  exact Except.ok.inj (ha.symm.trans hb)

theorem Spells.length_eq {text : List Char} {data : Bytes} (h : Spells text data) :
    text.length = 2 * data.length := by
  have hlength := congrArg List.length h
  rwa [lower_nibbles, lowered, List.length_map, List.length_map, length_nibbles] at hlength

theorem Spells.eq_nil_iff {text : List Char} {data : Bytes} (h : Spells text data) :
    data = [] ↔ text = [] := by
  have hlength := h.length_eq
  rw [← List.length_eq_zero_iff, ← List.length_eq_zero_iff]
  omega

theorem Spells.isDigit {text : List Char} {data : Bytes} (h : Spells text data) :
    ∀ c ∈ text, IsDigit c := by
  intro c hc
  have hmem : c.toLower ∈ (lower data).toList := h ▸ List.mem_map_of_mem hc
  rw [lower_nibbles] at hmem
  obtain ⟨v, hv, hlower⟩ := List.mem_map.mp hmem
  rw [IsDigit, ← hlower]
  exact digitOf_mem (nibbles_lt data v hv)

theorem exists_values {text : List Char} (h : ∀ c ∈ text, IsDigit c) :
    ∃ values : List UInt8, (∀ v ∈ values, v.toNat < 16) ∧ lowered text = values.map digitOf := by
  induction text with
  | nil => exact ⟨[], nofun, rfl⟩
  | cons c text ih =>
    obtain ⟨hc, hrest⟩ := List.forall_mem_cons.mp h
    obtain ⟨v, hv, hlower, -⟩ := value?_isDigit hc
    obtain ⟨values, hsmall, hvalues⟩ := ih hrest
    exact ⟨v :: values, List.forall_mem_cons.mpr ⟨hv, hsmall⟩, congrArg₂ List.cons hlower hvalues⟩

/-- An even number of digits spells a byte string. -/
theorem exists_spells {text : List Char} (heven : text.length % 2 = 0)
    (hdigits : ∀ c ∈ text, IsDigit c) : ∃ data, Spells text data := by
  obtain ⟨values, hsmall, htext⟩ := exists_values hdigits
  have hlength : values.length % 2 = 0 := by
    have hsame := congrArg List.length htext
    rw [lowered, List.length_map, List.length_map] at hsame
    rwa [← hsame]
  obtain ⟨data, hdata⟩ := exists_nibbles values hlength hsmall
  exact ⟨data, by rw [Spells, lower_nibbles, hdata, htext]⟩

theorem exists_spells_iff (text : List Char) :
    (∃ data, Spells text data) ↔ text.length % 2 = 0 ∧ ∀ c ∈ text, IsDigit c := by
  constructor
  · rintro ⟨data, h⟩
    exact ⟨by rw [h.length_eq]; omega, h.isDigit⟩
  · rintro ⟨heven, hdigits⟩
    exact exists_spells heven hdigits

theorem exists_length_spells_iff (text : List Char) (n : Nat) :
    (∃ data, data.length = n ∧ Spells text data) ↔
      text.length = 2 * n ∧ ∀ c ∈ text, IsDigit c := by
  constructor
  · rintro ⟨data, rfl, h⟩
    exact ⟨h.length_eq, h.isDigit⟩
  · rintro ⟨hlength, hdigits⟩
    obtain ⟨data, h⟩ := exists_spells (by omega) hdigits
    have hdata := h.length_eq
    exact ⟨data, by omega, h⟩

end CardReader.Hex
