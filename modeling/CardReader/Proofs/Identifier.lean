import CardReader.Identifier
import CardReader.Proofs.Bytes.Spelling
import CardReader.Proofs.Text.Decimal

namespace CardReader

open Bytes Text

namespace Hex

/-- The hexadecimal digits of a number, the highest first. -/
theorem toDigits_eq_map (n : Nat) : ∃ digits : List Nat,
    Nat.toDigits 16 n = digits.map Nat.digitChar ∧ (∀ d ∈ digits, d < 16) ∧
      Nat.ofDigits 16 digits.reverse = n := by
  induction n using Nat.strongRecOn with
  | ind n ih =>
    rw [Nat.toDigits_eq_if (by decide)]
    by_cases hsmall : n < 16
    · rw [if_pos hsmall]
      exact ⟨[n], rfl, by simpa using hsmall, Nat.ofDigits_singleton⟩
    · obtain ⟨digits, hdigits, hlt, hvalue⟩ := ih (n / 16) (by omega)
      rw [if_neg hsmall, hdigits]
      refine ⟨digits ++ [n % 16], by rw [List.map_append]; rfl, ?_, ?_⟩
      · exact List.forall_mem_append.mpr ⟨hlt, by simpa using Nat.mod_lt n (by decide)⟩
      · rw [List.reverse_concat, Nat.ofDigits_cons, hvalue]
        exact Nat.mod_add_div n 16

theorem isBlank_digitChar {d : Nat} (h : d < 16) : isBlank d.digitChar = false := by
  have hall : ∀ d : Fin 16, isBlank (Nat.digitChar d) = false := by decide
  exact hall ⟨d, h⟩

theorem toNat_ofNat_small {digits : List Nat} (h : ∀ d ∈ digits, d < 16) :
    ∀ d ∈ digits, (UInt8.ofNat d).toNat = d :=
  fun d hd => UInt8.toNat_ofNat_of_lt' (Nat.lt_trans (h d hd) (by decide))

theorem ofNat_small {digits : List Nat} (h : ∀ d ∈ digits, d < 16) :
    ∀ v ∈ digits.map UInt8.ofNat, v.toNat < 16 := by
  rw [List.forall_mem_map]
  intro d hd
  rw [toNat_ofNat_small h d hd]
  exact h d hd

theorem toLower_digitChar {d : Nat} (h : d < 16) :
    d.digitChar.toLower = digitOf (UInt8.ofNat d) := by
  have hall : ∀ d : Fin 16, (Nat.digitChar d).toLower = digitOf (UInt8.ofNat d) := by decide
  exact hall ⟨d, h⟩

/-- The digits of a number are read as their values. -/
theorem value?_encode {digits : List Nat} (h : ∀ d ∈ digits, d < 16) :
    (Utf8.encode (digits.map Nat.digitChar)).map value? = (digits.map UInt8.ofNat).map some := by
  rw [encode_values_iff _ (ofNat_small h), lowered, List.map_map, List.map_map]
  exact List.map_congr_left fun d hd => toLower_digitChar (h d hd)

end Hex

namespace Identifier

open Hex

/-- An identifier has a byte for every two digits, whatever blanks are around them. -/
theorem length_of_ofHex_ok {text : List Char} {identifier : Bytes}
    (h : ofHex text = .ok identifier) :
    identifier.length = ((Utf8.encode (trim text)).length + 1) / 2 := by
  unfold ofHex at h
  dsimp only at h
  split at h
  · rename_i data hread
    obtain rfl := Except.ok.inj h
    have hlength := length_of_decode_ok hread
    split_ifs at hlength with hodd
    · rw [List.length_cons] at hlength
      omega
    · omega
  · contradiction

/-- No bytes are read from blanks, and from nothing else. -/
theorem ofHex_nil_iff {text : List Char} {identifier : Bytes} (h : ofHex text = .ok identifier) :
    identifier = [] ↔ ∀ c ∈ text, isBlank c := by
  have hencode : Utf8.encode (trim text) = [] ↔ trim text = [] := by
    rw [Utf8.encode, List.flatMap_eq_nil_iff]
    constructor
    · intro hnone
      refine List.eq_nil_iff_forall_not_mem.mpr fun c hc => ?_
      exact String.utf8EncodeChar_ne_nil (hnone c hc)
    · intro hnil
      rw [hnil]
      exact List.forall_mem_nil _
  rw [← trim_eq_nil_iff, ← hencode, ← List.length_eq_zero_iff, ← List.length_eq_zero_iff,
    length_of_ofHex_ok h]
  omega

/-- An even number of hexadecimal digits is read as bytes that are the number of these digits. -/
theorem decode_even {digits : List Nat} {text : Bytes} (heven : digits.length % 2 = 0)
    (hsmall : ∀ d ∈ digits, d < 16) (htext : text.map value? = (digits.map UInt8.ofNat).map some) :
    ∃ data, decode text = .ok data ∧ number data = Nat.ofDigits 16 digits.reverse := by
  have hvalues : (digits.map UInt8.ofNat).map UInt8.toNat = digits := by
    rw [List.map_map]
    exact (List.map_congr_left (toNat_ofNat_small hsmall)).trans (List.map_id' digits)
  obtain ⟨data, hdata⟩ :=
    exists_nibbles (digits.map UInt8.ofNat) (by simpa using heven) (ofNat_small hsmall)
  refine ⟨data, decode_ok_iff.mpr (by rw [hdata, htext]), ?_⟩
  rw [number_nibbles, hdata, List.map_reverse, hvalues]

/-- A zero in front of an odd number of digits does not change the number. -/
theorem decode_padded {digits : List Nat} {text : Bytes} (hsmall : ∀ d ∈ digits, d < 16)
    (htext : text.map value? = (digits.map UInt8.ofNat).map some) :
    ∃ data, decode (if text.length % 2 = 1 then 48 :: text else text) = .ok data ∧
      number data = Nat.ofDigits 16 digits.reverse := by
  have hlength : text.length = digits.length := by simpa using congrArg List.length htext
  by_cases hodd : text.length % 2 = 1
  · have heven : (0 :: digits).length % 2 = 0 := by
      rw [List.length_cons]
      omega
    have hzero : (48 :: text).map value? = ((0 :: digits).map UInt8.ofNat).map some := by
      rw [List.map_cons, htext]
      rfl
    obtain ⟨data, hread, hnumber⟩ :=
      decode_even heven (List.forall_mem_cons.mpr ⟨by decide, hsmall⟩) hzero
    rw [List.reverse_cons, Nat.ofDigits_append, Nat.ofDigits_singleton, Nat.mul_zero,
      Nat.add_zero] at hnumber
    rw [if_pos hodd]
    exact ⟨data, hread, hnumber⟩
  · rw [if_neg hodd]
    exact decode_even (by omega) hsmall htext

/-- A byte string is the shortest for its number if it has no more bytes than pairs of hexadecimal
digits of the number begin. -/
theorem shortest_of_length {data : Bytes} {n : Nat} (hnumber : number data = n)
    (hlength : data.length = ((Nat.toDigits 16 n).length + 1) / 2) : Shortest data n := by
  have hsome := Nat.length_toDigits_pos (b := 16) (n := n)
  refine ⟨List.ne_nil_of_length_pos (by omega), hnumber, fun other hother hsame => ?_⟩
  have hpos := List.length_pos_iff.mpr hother
  have hlt := number_lt other
  rw [hsame, show (256 : Nat) = 16 ^ 2 from rfl, ← Nat.pow_mul] at hlt
  have hfew := (Nat.length_toDigits_le_iff (by decide) (by omega)).mpr hlt
  omega

/-- The digits of a number are read as its shortest byte string. -/
theorem ofHex_toDigits (n : Nat) :
    ∃ identifier, ofHex (Nat.toDigits 16 n) = .ok identifier ∧ Shortest identifier n := by
  obtain ⟨digits, htext, hsmall, hvalue⟩ := toDigits_eq_map n
  have htrim : trim (Nat.toDigits 16 n) = Nat.toDigits 16 n := by
    apply trim_solid
    rw [htext, List.forall_mem_map]
    exact fun d hd => isBlank_digitChar (hsmall d hd)
  have hspelled := value?_encode hsmall
  obtain ⟨identifier, hread, hnumber⟩ := decode_padded hsmall hspelled
  have hidentifier : ofHex (Nat.toDigits 16 n) = .ok identifier := by
    unfold ofHex
    dsimp only
    rw [htrim, htext, hread]
  refine ⟨identifier, hidentifier, shortest_of_length (hnumber.trans hvalue) ?_⟩
  have hbytes := congrArg List.length hspelled
  simp only [List.length_map] at hbytes
  rw [length_of_ofHex_ok hidentifier, htrim, htext, List.length_map, hbytes]

/-- What is read as a number becomes its shortest byte string. -/
theorem ofDecimal_number {text : List Char} {n : Nat} (h : Number.parse (trim text) = .ok n) :
    ∃ identifier, ofDecimal text = .ok identifier ∧ Shortest identifier n := by
  rw [ofDecimal, h]
  exact ofHex_toDigits n

/-- What is read as an identifier is the shortest byte string of the number that the text spells. -/
theorem ofDecimal_ok_iff (text : List Char) (identifier : Bytes) :
    ofDecimal text = .ok identifier ↔
      ∃ n < 2 ^ 64, Number.Spells text n ∧ Shortest identifier n := by
  constructor
  · intro h
    cases hparse : Number.parse (trim text) with
    | error e =>
      rw [ofDecimal, hparse] at h
      contradiction
    | ok n =>
      obtain ⟨other, hother, hshortest⟩ := ofDecimal_number hparse
      obtain ⟨hspells, hn⟩ := (Number.parse_trim_ok_iff text n).mp hparse
      rw [h] at hother
      exact ⟨n, hn, hspells, Except.ok.inj hother ▸ hshortest⟩
  · rintro ⟨n, hn, hspells, hshortest⟩
    obtain ⟨other, hother, hsame⟩ :=
      ofDecimal_number ((Number.parse_trim_ok_iff text n).mpr ⟨hspells, hn⟩)
    rw [hother, hsame.unique hshortest]

/-- A text that spells a number of 64 bits becomes the shortest byte string that is the number, and
any other text is refused. So two texts come to one identifier if and only if they spell one
number. -/
theorem ofDecimal_spelled (text : List Char) :
    (∀ n < 2 ^ 64, Number.Spells text n →
        ∃ identifier, ofDecimal text = .ok identifier ∧ Shortest identifier n) ∧
      ((∀ n < 2 ^ 64, ¬Number.Spells text n) →
        ∃ cause, ofDecimal text = .error (.badResponse cause)) ∧
      ∀ other : List Char,
        (∃ identifier, ofDecimal text = .ok identifier ∧ ofDecimal other = .ok identifier) ↔
          ∃ n < 2 ^ 64, Number.Spells text n ∧ Number.Spells other n := by
  have hread : ∀ text : List Char, ∀ n < 2 ^ 64, Number.Spells text n →
      ∃ identifier, ofDecimal text = .ok identifier ∧ Shortest identifier n :=
    fun text n hn h => ofDecimal_number ((Number.parse_trim_ok_iff text n).mpr ⟨h, hn⟩)
  refine ⟨hread text, fun hnone => ?_, fun other => ⟨?_, ?_⟩⟩
  · cases hparse : Number.parse (trim text) with
    | error e => exact ⟨.cardNumber (String.ofList text) e, by rw [ofDecimal, hparse]⟩
    | ok n =>
      obtain ⟨hspells, hn⟩ := (Number.parse_trim_ok_iff text n).mp hparse
      exact absurd hspells (hnone n hn)
  · rintro ⟨identifier, htext, hother⟩
    obtain ⟨n, hn, hspells, hshortest⟩ := (ofDecimal_ok_iff text identifier).mp htext
    obtain ⟨m, -, hspells', hshortest'⟩ := (ofDecimal_ok_iff other identifier).mp hother
    have hsame : m = n := hshortest'.number_eq.symm.trans hshortest.number_eq
    exact ⟨n, hn, hspells, hsame ▸ hspells'⟩
  · rintro ⟨n, hn, hspells, hspells'⟩
    obtain ⟨identifier, htext, hshortest⟩ := hread text n hn hspells
    exact ⟨identifier, htext, (ofDecimal_ok_iff other identifier).mpr ⟨n, hn, hspells', hshortest⟩⟩

/-- The largest number, with a sign, zeros in front of it and blanks around it, and the number
after it. -/
theorem ofDecimal_spelled_largest :
    let largest := ['\t', '\u00a0'] ++ "+00018446744073709551615".toList ++ ['\u3000']
    let beyond := "18446744073709551616".toList
    Number.Spells largest (2 ^ 64 - 1) ∧ (∀ n < 2 ^ 64, ¬Number.Spells beyond n) ∧
      (∃ identifier, ofDecimal largest = .ok identifier ∧ Shortest identifier (2 ^ 64 - 1)) ∧
      ∃ cause, ofDecimal beyond = .error (.badResponse cause) := by
  intro largest beyond
  have hspells : Number.Spells largest (2 ^ 64 - 1) := by
    refine ⟨['\t', '\u00a0'], "+00018446744073709551615".toList, ['\u3000'], rfl,
      List.all_eq_true.mp (by decide), List.all_eq_true.mp (by decide),
      .inr ⟨"00018446744073709551615".toList, rfl, ?_⟩⟩
    exact ⟨by decide, List.all_eq_true.mp (by decide), by decide⟩
  have hbeyond : ∀ n < 2 ^ 64, ¬Number.Spells beyond n := by
    intro n hn h
    have hparse := (Number.parse_trim_ok_iff beyond n).mpr ⟨h, hn⟩
    have hrefused : Number.parse (trim beyond) = .error .tooLarge := by decide
    rw [hrefused] at hparse
    contradiction
  exact ⟨hspells, hbeyond, (ofDecimal_spelled largest).1 _ (by decide) hspells,
    (ofDecimal_spelled beyond).2.1 hbeyond⟩

end Identifier

end CardReader
