import CardReader.Text.Blank
import CardReader.Text.Number
import Mathlib.Algebra.Ring.Nat
import Mathlib.Data.List.DropRight

namespace CardReader.Text

theorem trim_eq_rdropWhile (text : List Char) :
    trim text = (text.dropWhile isBlank).rdropWhile isBlank := rfl

/-- What is trimmed off a text is blank. -/
theorem exists_trim (text : List Char) : ∃ before after, text = before ++ trim text ++ after ∧
    (∀ c ∈ before, isBlank c) ∧ ∀ c ∈ after, isBlank c := by
  refine ⟨text.takeWhile isBlank, (text.dropWhile isBlank).rtakeWhile isBlank, ?_,
    fun c hc => List.mem_takeWhile_imp hc, fun c hc => List.mem_rtakeWhile_imp hc⟩
  rw [trim_eq_rdropWhile, List.append_assoc, List.rdropWhile_append_rtakeWhile,
    List.takeWhile_append_dropWhile]

/-- A text without blanks is what is left of itself between blanks. -/
theorem trim_around {before core after : List Char} (hbefore : ∀ c ∈ before, isBlank c)
    (hcore : ∀ c ∈ core, isBlank c = false) (hafter : ∀ c ∈ after, isBlank c) :
    trim (before ++ core ++ after) = core := by
  rw [trim, List.append_assoc, List.dropWhile_append_of_pos hbefore]
  cases core with
  | nil =>
    rw [List.nil_append, List.dropWhile_eq_nil_iff.mpr hafter]
    rfl
  | cons c rest =>
    have hfirst : ¬isBlank c = true := by
      rw [hcore c List.mem_cons_self]
      exact Bool.false_ne_true
    have hlast : (c :: rest).reverse.dropWhile isBlank = (c :: rest).reverse := by
      rw [List.dropWhile_eq_self_iff]
      intro hlength
      rw [hcore _ (List.mem_reverse.mp (List.getElem_mem hlength))]
      exact Bool.false_ne_true
    rw [List.cons_append, List.dropWhile_cons_of_neg hfirst, ← List.cons_append,
      List.reverse_append, List.dropWhile_append_of_pos (by simpa using hafter), hlast,
      List.reverse_reverse]

theorem trim_solid {text : List Char} (h : ∀ c ∈ text, isBlank c = false) : trim text = text := by
  have hkept := @trim_around [] text [] nofun h nofun
  rwa [List.append_nil] at hkept

theorem trim_eq_nil_iff (text : List Char) : trim text = [] ↔ ∀ c ∈ text, isBlank c := by
  constructor
  · intro h
    obtain ⟨before, after, htext, hbefore, hafter⟩ := exists_trim text
    rw [htext, h, List.append_nil]
    exact List.forall_mem_append.mpr ⟨hbefore, hafter⟩
  · intro h
    rw [trim_eq_rdropWhile, List.dropWhile_eq_nil_iff.mpr h, List.rdropWhile_nil]

namespace Number

open Nat

/-- A text is a number in decimal digits; zeros in front of it do not count. -/
def Digits (text : List Char) (n : Nat) : Prop :=
  text ≠ [] ∧ (∀ c ∈ text, c.isDigit) ∧ ofDigitChars 10 text 0 = n

/-- A text is a number in decimal digits, which may stand after a plus sign. -/
def Numeral (text : List Char) (n : Nat) : Prop :=
  Digits text n ∨ ∃ digits, text = '+' :: digits ∧ Digits digits n

/-- A text is a number between blanks. -/
def Spells (text : List Char) (n : Nat) : Prop :=
  ∃ before numeral after, text = before ++ numeral ++ after ∧ (∀ c ∈ before, isBlank c) ∧
    (∀ c ∈ after, isBlank c) ∧ Numeral numeral n

/-- Digits after a number never make it smaller. -/
theorem le_ofDigitChars (text : List Char) (value : Nat) : value ≤ ofDigitChars 10 text value := by
  induction text generalizing value with
  | nil => exact le_rfl
  | cons c text ih =>
    rw [ofDigitChars_cons]
    have h := ih (10 * value + (c.toNat - '0'.toNat))
    omega

/-- Digits are read if the number they make, all of them, fits 64 bits. -/
theorem digits_ok_iff {value : Nat} (hvalue : value < 2 ^ 64) (text : List Char) (n : Nat) :
    digits value text = .ok n ↔
      (∀ c ∈ text, c.isDigit) ∧ ofDigitChars 10 text value = n ∧ n < 2 ^ 64 := by
  induction text generalizing value with
  | nil =>
    rw [digits, ofDigitChars_nil]
    constructor
    · rintro ⟨⟩
      exact ⟨nofun, rfl, hvalue⟩
    · rintro ⟨-, rfl, -⟩
      rfl
  | cons c text ih =>
    have hnext : 10 * value + (c.toNat - '0'.toNat) = value * 10 + (c.toNat - 48) := by
      rw [Nat.mul_comm]
      rfl
    rw [digits, List.forall_mem_cons, ofDigitChars_cons, hnext]
    by_cases hdigit : c.isDigit
    · rw [if_neg (not_not_intro hdigit)]
      by_cases hfits : value * 10 + (c.toNat - 48) < 0x10000000000000000
      · rw [if_pos hfits, ih hfits, and_iff_right hdigit]
      · rw [if_neg hfits]
        refine iff_of_false nofun ?_
        rintro ⟨-, rfl, hn⟩
        have hle := le_ofDigitChars text (value * 10 + (c.toNat - 48))
        omega
    · rw [if_pos hdigit]
      exact iff_of_false nofun fun h => hdigit h.1.1

theorem digits_zero_ok_iff {text : List Char} (hsome : text ≠ []) (n : Nat) :
    digits 0 text = .ok n ↔ Digits text n ∧ n < 2 ^ 64 := by
  rw [digits_ok_iff (by decide), Digits, and_iff_right hsome, and_assoc]

theorem numeral_plus (rest : List Char) (n : Nat) : Numeral ('+' :: rest) n ↔ Digits rest n := by
  constructor
  · rintro (⟨-, hdigits, -⟩ | ⟨digits, htext, hrest⟩)
    · exact absurd (hdigits '+' List.mem_cons_self) (by decide)
    · obtain ⟨-, rfl⟩ := List.cons.inj htext
      exact hrest
  · exact fun h => .inr ⟨rest, rfl, h⟩

theorem numeral_plain {text : List Char} (h : ∀ rest, text = '+' :: rest → False) (n : Nat) :
    Numeral text n ↔ Digits text n :=
  or_iff_left fun ⟨digits, htext, _⟩ => h digits htext

/-- Exactly the numerals of 64 bits are read. -/
theorem parse_ok_iff (text : List Char) (n : Nat) :
    parse text = .ok n ↔ Numeral text n ∧ n < 2 ^ 64 := by
  unfold parse
  split
  · have hplain : ∀ rest, ([] : List Char) = '+' :: rest → False := nofun
    rw [numeral_plain hplain]
    exact iff_of_false nofun fun h => h.1.1 rfl
  · rw [numeral_plus]
    exact iff_of_false nofun fun h => h.1.1 rfl
  · rename_i rest hsome
    rw [numeral_plus, digits_zero_ok_iff fun hnil => hsome (by rw [hnil])]
  · rename_i hsome _ hplain
    rw [numeral_plain hplain, digits_zero_ok_iff hsome]

theorem isBlank_of_isDigit {c : Char} (h : c.isDigit) : isBlank c = false := by
  obtain ⟨hleast, hmost⟩ := Char.isDigit_iff_toNat.mp h
  change 48 ≤ c.toNat at hleast
  change c.toNat ≤ 57 at hmost
  simp only [isBlank, Bool.or_eq_false_iff, Bool.and_eq_false_iff, beq_eq_false_iff_ne,
    decide_eq_false_iff_not]
  omega

theorem Numeral.not_blank {text : List Char} {n : Nat} (h : Numeral text n) :
    ∀ c ∈ text, isBlank c = false := by
  obtain ⟨-, hdigits, -⟩ | ⟨digits, rfl, -, hdigits, -⟩ := h
  · exact fun c hc => isBlank_of_isDigit (hdigits c hc)
  · exact List.forall_mem_cons.mpr ⟨by decide, fun c hc => isBlank_of_isDigit (hdigits c hc)⟩

/-- Exactly the texts that spell a number of 64 bits are read, once they are trimmed. -/
theorem parse_trim_ok_iff (text : List Char) (n : Nat) :
    parse (trim text) = .ok n ↔ Spells text n ∧ n < 2 ^ 64 := by
  rw [parse_ok_iff]
  refine and_congr_left fun _ => ⟨fun h => ?_, ?_⟩
  · obtain ⟨before, after, htext, hbefore, hafter⟩ := exists_trim text
    exact ⟨before, trim text, after, htext, hbefore, hafter, h⟩
  · rintro ⟨before, numeral, after, rfl, hbefore, hafter, h⟩
    rwa [trim_around hbefore h.not_blank hafter]

end Number

end CardReader.Text
