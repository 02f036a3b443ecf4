import CardReader.Config.Mode
import Mathlib.Data.List.Basic

namespace CardReader

open Text

theorem Text.pieces_eq_splitOnP (cut : Char → Bool) (text : List Char) :
    pieces cut text = text.splitOnP cut := by
  induction text with
  | nil => rfl
  | cons c text ih =>
    rw [pieces, ih, List.splitOnP_cons_eq_if_modifyHead]
    cases hcut : cut c with
    | true => rfl
    | false =>
      rw [if_neg Bool.false_ne_true]
      cases hrest : text.splitOnP cut with
      | nil => exact absurd hrest (List.splitOnP_ne_nil cut text)
      | cons first rest => rfl

namespace Stid.Mode

/-- The name that a piece of a text is, without blanks around it and with small letters for
capitals. -/
def nameOf (piece : List Char) : String := String.ofList (lowered (trim piece))

/-- The names in a text, between its separators. -/
def names (text : String) : List String := (text.toList.splitOnP isSeparator).map nameOf

def plainNames : List String := ["", "plain"]

def signedNames : List String := ["signed", "hmac"]

def cipheredNames : List String := ["ciphered", "aes"]

def vocabulary : List String := plainNames ++ signedNames ++ cipheredNames

def ofProtections (isSigned isCiphered : Bool) : Mode :=
  (if isSigned then signed else plain).union (if isCiphered then ciphered else plain)

/-- The mode with the protections that some names stand for, if each stands for one. -/
def ofNames? (names : List String) : Option Mode :=
  if ∀ n ∈ names, n ∈ vocabulary then
    some (ofProtections (names.any (· ∈ signedNames)) (names.any (· ∈ cipheredNames)))
  else none

theorem union_ofProtections (a b c d : Bool) :
    (ofProtections a b).union (ofProtections c d) = ofProtections (a || c) (b || d) := by
  cases a <;> cases b <;> cases c <;> cases d <;> rfl

theorem ofNames?_known {names : List String} (h : ∀ n ∈ names, n ∈ vocabulary) :
    ofNames? names =
      some (ofProtections (names.any (· ∈ signedNames)) (names.any (· ∈ cipheredNames))) :=
  if_pos h

theorem ofNames?_unknown {names : List String} (h : ¬∀ n ∈ names, n ∈ vocabulary) :
    ofNames? names = none :=
  if_neg h

/-- Only which names there are counts. -/
theorem ofNames?_congr {a b : List String} (h : ∀ n, n ∈ a ↔ n ∈ b) : ofNames? a = ofNames? b := by
  have hall : (∀ n ∈ a, n ∈ vocabulary) ↔ ∀ n ∈ b, n ∈ vocabulary := by simp only [h]
  have hany : ∀ p : String → Bool, a.any p = b.any p := by
    intro p
    rw [Bool.eq_iff_iff, List.any_eq_true, List.any_eq_true]
    simp only [h]
  by_cases hknown : ∀ n ∈ a, n ∈ vocabulary
  · rw [ofNames?_known hknown, ofNames?_known (hall.mp hknown), hany, hany]
  · rw [ofNames?_unknown hknown, ofNames?_unknown (mt hall.mpr hknown)]

theorem ofName?_eq (name : String) : ofName? name = ofNames? [name] := by
  unfold ofName?
  split_ifs with hplain hsigned hciphered
  · obtain rfl | rfl := hplain <;> decide
  · obtain rfl | rfl := hsigned <;> decide
  · obtain rfl | rfl := hciphered <;> decide
  · have hunknown : name ∉ vocabulary := by
      simp only [vocabulary, plainNames, signedNames, cipheredNames, List.mem_append,
        List.mem_pair]
      tauto
    rw [ofNames?_unknown fun h => hunknown (h name (List.mem_singleton_self name))]

/-- Names are read one by one, so that a text is as good as its worst name. -/
theorem ofNames?_cons (name : String) (rest : List String) : ofNames? (name :: rest) =
    match ofNames? [name], ofNames? rest with
    | some a, some b => some (a.union b)
    | _, _ => none := by
  by_cases hname : name ∈ vocabulary
  · have hone := List.forall_mem_singleton.mpr hname
    by_cases hrest : ∀ n ∈ rest, n ∈ vocabulary
    · rw [ofNames?_known (List.forall_mem_cons.mpr ⟨hname, hrest⟩), ofNames?_known hone,
        ofNames?_known hrest]
      dsimp only
      rw [union_ofProtections, List.any_cons, List.any_cons, List.any_cons, List.any_cons,
        List.any_nil, Bool.or_false, List.any_nil, Bool.or_false]
    · rw [ofNames?_unknown fun h => hrest (List.forall_mem_cons.mp h).2, ofNames?_known hone,
        ofNames?_unknown hrest]
  · rw [ofNames?_unknown fun h => hname (List.forall_mem_cons.mp h).1,
      ofNames?_unknown fun h => hname (List.forall_mem_singleton.mp h)]

theorem ofPieces?_eq (pieces : List (List Char)) :
    ofPieces? pieces = ofNames? (pieces.map nameOf) := by
  induction pieces with
  | nil => rfl
  | cons piece rest ih =>
    rw [ofPieces?, List.map_cons, ofNames?_cons, ih, ofPiece?, ofName?_eq]
    rfl

theorem parse?_eq (text : String) : parse? text = ofNames? (names text) := by
  rw [parse?, pieces_eq_splitOnP, ofPieces?_eq, names]

theorem parse_known {text : String} (h : ∀ n ∈ names text, n ∈ vocabulary) :
    parse text = .ok (ofProtections ((names text).any (· ∈ signedNames))
      ((names text).any (· ∈ cipheredNames))) := by
  rw [parse, parse?_eq, ofNames?_known h]

theorem parse_unknown {text : String} (h : ¬∀ n ∈ names text, n ∈ vocabulary) :
    parse text = .error (.unknownMode text) := by
  rw [parse, parse?_eq, ofNames?_unknown h]

theorem parse_congr {text other : String} {m : Mode} (h : ∀ n, n ∈ names other ↔ n ∈ names text)
    (hm : parse text = .ok m) : parse other = .ok m := by
  rw [parse, parse?_eq] at hm ⊢
  rw [ofNames?_congr h]
  cases hread : ofNames? (names text) with
  | none =>
    rw [hread] at hm
    contradiction
  | some a =>
    rw [hread] at hm
    exact hm

theorem isSigned_ofProtections (a b : Bool) : (ofProtections a b).isSigned = a := by
  cases a <;> cases b <;> rfl

theorem isCiphered_ofProtections (a b : Bool) : (ofProtections a b).isCiphered = b := by
  cases a <;> cases b <;> rfl

theorem unreserved_ofProtections (a b : Bool) :
    (ofProtections a b).bits &&& ~~~(signed.union ciphered).bits = 0 := by
  cases a <;> cases b <;> rfl

/-- The name of a mode is read as the mode. -/
theorem parse_text (a b : Bool) : parse (ofProtections a b).text = .ok (ofProtections a b) := by
  cases a <;> cases b <;> decide +kernel

/-- A text is read as a mode if and only if every name in it is in the vocabulary, and is told in
the failure if it is not. The mode has the protections that are named, no matter where, how often
and how, and no other bit; its own name is read as it again. -/
theorem parse_named (text : String) :
    ((∃ m, parse text = .ok m) ↔ ∀ n ∈ names text, n ∈ vocabulary) ∧
      (∀ m, parse text = .ok m →
        (m.isSigned ↔ ∃ n ∈ names text, n ∈ signedNames) ∧
        (m.isCiphered ↔ ∃ n ∈ names text, n ∈ cipheredNames) ∧
        m.bits &&& ~~~(signed.union ciphered).bits = 0 ∧ parse m.text = .ok m ∧
        ∀ other, (∀ n, n ∈ names other ↔ n ∈ names text) → parse other = .ok m) ∧
      ∀ e, parse text = .error e ↔
        e = .unknownMode text ∧ ∃ n ∈ names text, n ∉ vocabulary := by
  by_cases hknown : ∀ n ∈ names text, n ∈ vocabulary
  · have hread := parse_known hknown
    refine ⟨iff_of_true ⟨_, hread⟩ hknown, fun m hm => ?_, fun e => iff_of_false ?_ ?_⟩
    · obtain rfl := Except.ok.inj (hread.symm.trans hm)
      refine ⟨?_, ?_, unreserved_ofProtections _ _, parse_text _ _,
        fun other hsame => parse_congr hsame hread⟩
      · rw [isSigned_ofProtections, List.any_eq_true]
        simp only [decide_eq_true_eq]
      · rw [isCiphered_ofProtections, List.any_eq_true]
        simp only [decide_eq_true_eq]
    · rw [hread]
      exact nofun
    · rintro ⟨-, n, hn, hunknown⟩
      exact hunknown (hknown n hn)
  · have hrefused := parse_unknown hknown
    refine ⟨iff_of_false ?_ hknown, fun m hm => ?_, fun e => ?_⟩
    · rintro ⟨m, hm⟩
      rw [hrefused] at hm
      contradiction
    · rw [hrefused] at hm
      contradiction
    · rw [hrefused]
      have hsome : ∃ n ∈ names text, n ∉ vocabulary := by
        simpa only [not_forall, exists_prop] using hknown
      rw [and_iff_left hsome, Except.error.injEq]
      exact eq_comm

/-- Names in disorder, one of them twice, between all separators; and a name that is none. -/
theorem parse_named_disorder :
    let disorder := "\u2003AES,,Hmac\t| plain +aes"
    let both := signed.union ciphered
    parse disorder = .ok both ∧ both.isSigned ∧ both.isCiphered ∧ parse both.text = .ok both ∧
      parse "signed+reserved" = .error (.unknownMode "signed+reserved") := by
  intro disorder both
  have hread : parse disorder = .ok both := by decide +kernel
  obtain ⟨-, -, -, hback, -⟩ := (parse_named disorder).2.1 both hread
  refine ⟨hread, by decide, by decide, hback, ?_⟩
  exact ((parse_named "signed+reserved").2.2 _).mpr ⟨rfl, by decide +kernel⟩

end Stid.Mode

end CardReader
