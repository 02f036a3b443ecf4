import CardReader.Config.Key
import CardReader.Proofs.Bytes.Spelling

namespace CardReader.Key

open Hex Text

/-- A text without its blanks. -/
def solid (text : String) : List Char := text.toList.filter fun c => !isBlank c

variable (expected : Nat) (text : String)

theorem decode_blank (h : solid text = []) : decode expected text = .ok [] := by
  unfold decode
  rw [solid] at h
  rw [h]
  rfl

/-- Digits of bytes are a key if their number is as expected. -/
theorem decode_digits {data : Bytes} (hsome : solid text ≠ []) (h : Spells (solid text) data) :
    decode expected text =
      if data.length = expected then .ok data else .error (.length expected data.length) := by
  have hread := (decode_encode_ok_iff (solid text) data).mpr h
  rw [solid] at hsome hread
  unfold decode
  dsimp only
  rw [if_neg (by rwa [List.isEmpty_iff]), hread]

theorem decode_refused (hsome : solid text ≠ []) (h : ∀ data, ¬Spells (solid text) data) :
    ∃ cause, decode expected text = .error (.text cause) := by
  cases hread : Hex.decode (Utf8.encode (solid text)) with
  | ok data => exact absurd ((decode_encode_ok_iff (solid text) data).mp hread) (h data)
  | error cause =>
    refine ⟨cause, ?_⟩
    rw [solid] at hsome hread
    unfold decode
    dsimp only
    rw [if_neg (by rwa [List.isEmpty_iff]), hread]

/-- What becomes of a text: it is blank, it spells bytes, or it spells none. -/
theorem decode_cases :
    (solid text = [] ∧ decode expected text = .ok []) ∨
      (∃ data, data ≠ [] ∧ Spells (solid text) data ∧ decode expected text =
        if data.length = expected then .ok data else .error (.length expected data.length)) ∨
      ((∀ data, ¬Spells (solid text) data) ∧
        ∃ cause, decode expected text = .error (.text cause)) := by
  by_cases hblank : solid text = []
  · exact .inl ⟨hblank, decode_blank expected text hblank⟩
  · by_cases hspells : ∃ data, Spells (solid text) data
    · obtain ⟨data, hdata⟩ := hspells
      exact .inr (.inl ⟨data, mt hdata.eq_nil_iff.mp hblank, hdata,
        decode_digits expected text hblank hdata⟩)
    · have hnone := not_exists.mp hspells
      exact .inr (.inr ⟨hnone, decode_refused expected text hblank hnone⟩)

theorem decode_nil_iff : decode expected text = .ok [] ↔ solid text = [] := by
  obtain ⟨hblank, h⟩ | ⟨data, hdata, hspells, h⟩ | ⟨hnone, cause, h⟩ := decode_cases expected text
  · rw [h, hblank]
    exact iff_of_true rfl rfl
  · rw [h]
    refine iff_of_false (fun hnil => ?_) fun hblank => ?_
    · split_ifs at hnil
      · exact hdata (Except.ok.inj hnil)
    · exact hdata (hspells.eq_nil_iff.mpr hblank)
  · rw [h]
    refine iff_of_false nofun fun hblank => hnone [] ?_
    rw [hblank]
    rfl

theorem decode_key_iff {key : Bytes} (hkey : key ≠ []) :
    decode expected text = .ok key ↔ key.length = expected ∧ Spells (solid text) key := by
  obtain ⟨hblank, h⟩ | ⟨data, hdata, hspells, h⟩ | ⟨hnone, cause, h⟩ := decode_cases expected text
  · rw [h, hblank]
    exact iff_of_false (fun hnil => hkey (Except.ok.inj hnil).symm)
      fun hspelled => hkey (hspelled.2.eq_nil_iff.mpr rfl)
  · rw [h]
    constructor
    · intro hread
      split_ifs at hread with hlength
      obtain rfl := Except.ok.inj hread
      exact ⟨hlength, hspells⟩
    · rintro ⟨hlength, hspelled⟩
      obtain rfl := hspells.unique hspelled
      rw [if_pos hlength]
  · rw [h]
    exact iff_of_false nofun fun hspelled => hnone key hspelled.2

/-- Digits of bytes are refused with their number, if it is not as expected. -/
theorem decode_length_iff (wanted actual : Nat) :
    decode expected text = .error (.length wanted actual) ↔
      wanted = expected ∧ actual ≠ expected ∧ solid text ≠ [] ∧
        ∃ data, data.length = actual ∧ Spells (solid text) data := by
  obtain ⟨hblank, h⟩ | ⟨data, hdata, hspells, h⟩ | ⟨hnone, cause, h⟩ := decode_cases expected text
  · rw [h]
    exact iff_of_false nofun fun hlong => hlong.2.2.1 hblank
  · have hsome : solid text ≠ [] := mt hspells.eq_nil_iff.mpr hdata
    rw [h]
    constructor
    · intro hread
      split_ifs at hread with hlength
      obtain ⟨rfl, rfl⟩ := KeyFault.length.inj (Except.error.inj hread)
      exact ⟨rfl, hlength, hsome, data, rfl, hspells⟩
    · rintro ⟨rfl, hlength, -, other, rfl, hspelled⟩
      obtain rfl := hspells.unique hspelled
      rw [if_neg hlength]
  · rw [h]
    exact iff_of_false nofun fun ⟨_, _, _, other, _, hspelled⟩ => hnone other hspelled

theorem decode_text_iff :
    (∃ cause, decode expected text = .error (.text cause)) ↔
      ∀ data, ¬Spells (solid text) data := by
  obtain ⟨hblank, h⟩ | ⟨data, -, hspells, h⟩ | ⟨hnone, cause, h⟩ := decode_cases expected text
  · rw [h, hblank]
    exact iff_of_false nofun fun hnone => hnone [] rfl
  · rw [h]
    refine iff_of_false ?_ fun hnone => hnone data hspells
    rintro ⟨cause, hread⟩
    split_ifs at hread
    cases Except.error.inj hread
  · exact iff_of_true ⟨cause, h⟩ hnone

/-- A text is no key if and only if it is blank. It is a key if and only if it is, blanks apart, two
hexadecimal digits for each byte of the expected length, and then it is the key that these digits
spell; digits for another number of bytes are refused with this number, and every other text is
refused as a text. -/
theorem decode_spelled :
    (decode expected text = .ok [] ↔ solid text = []) ∧
      ((∃ key, key ≠ [] ∧ decode expected text = .ok key) ↔
        solid text ≠ [] ∧ (solid text).length = 2 * expected ∧ ∀ c ∈ solid text, IsDigit c) ∧
      (∀ key, key ≠ [] →
        (decode expected text = .ok key ↔ key.length = expected ∧ Spells (solid text) key)) ∧
      (∀ wanted actual, decode expected text = .error (.length wanted actual) ↔
        wanted = expected ∧ actual ≠ expected ∧ solid text ≠ [] ∧
          (solid text).length = 2 * actual ∧ ∀ c ∈ solid text, IsDigit c) ∧
      ((∃ cause, decode expected text = .error (.text cause)) ↔
        (solid text).length % 2 = 1 ∨ ∃ c ∈ solid text, ¬IsDigit c) := by
  refine ⟨decode_nil_iff expected text, ?_, fun key => decode_key_iff expected text,
    fun wanted actual => ?_, ?_⟩
  · rw [← exists_length_spells_iff]
    constructor
    · rintro ⟨key, hkey, hread⟩
      obtain ⟨hlength, hspells⟩ := (decode_key_iff expected text hkey).mp hread
      exact ⟨mt hspells.eq_nil_iff.mpr hkey, key, hlength, hspells⟩
    · rintro ⟨hsome, key, hlength, hspells⟩
      have hkey := mt hspells.eq_nil_iff.mp hsome
      exact ⟨key, hkey, (decode_key_iff expected text hkey).mpr ⟨hlength, hspells⟩⟩
  · rw [decode_length_iff, exists_length_spells_iff]
  · rw [decode_text_iff, ← not_exists, exists_spells_iff, not_and_or, ← ne_eq,
      Nat.mod_two_ne_zero]
    simp only [not_forall, exists_prop]

/-- Blanks of several kinds between digits in both cases, a letter that is none, and a digit too
many. -/
theorem decode_spelled_scattered :
    let scattered := "\u00a0a\t0 8\u2003F\n"
    [0xA0, 0x8F] ≠ ([] : Bytes) ∧ Spells (solid scattered) [0xA0, 0x8F] ∧
      decode 2 scattered = .ok [0xA0, 0x8F] ∧ decode 3 scattered = .error (.length 3 2) ∧
      (∃ cause, decode 2 "A08G" = .error (.text cause)) ∧
      ∃ cause, decode 2 "A08F0" = .error (.text cause) := by
  intro scattered
  have hkey : [0xA0, 0x8F] ≠ ([] : Bytes) := by decide
  have hspells : Spells (solid scattered) [0xA0, 0x8F] := by decide +kernel
  have hdigits : (solid scattered).all (IsDigit ·) = true := by decide +kernel
  refine ⟨hkey, hspells, ?_, ?_, ?_, ?_⟩
  · exact ((decode_spelled 2 scattered).2.2.1 _ hkey).mpr ⟨rfl, hspells⟩
  · refine ((decode_spelled 3 scattered).2.2.2.1 3 2).mpr
      ⟨rfl, by decide, by decide +kernel, by decide +kernel, fun c hc => ?_⟩
    exact of_decide_eq_true (List.all_eq_true.mp hdigits c hc)
  · exact (decode_spelled 2 "A08G").2.2.2.2.mpr (.inr ⟨'G', by decide +kernel, by decide +kernel⟩)
  · exact (decode_spelled 2 "A08F0").2.2.2.2.mpr (.inl (by decide +kernel))

end CardReader.Key
