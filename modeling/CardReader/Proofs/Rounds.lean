import CardReader.Proofs.Run

namespace CardReader.Run

variable {ε κ α ω : Type}

/-- Repeats `round` until it settles, at most so many times. -/
def loop (round : EStateM ε κ (Option α)) (spent : EStateM ε κ α) : Nat → EStateM ε κ α
  | 0 => spent
  | n + 1 => do
    match ← round with
    | some a => return a
    | none => loop round spent n

/-- The states in which the rounds of a loop begin. -/
def rounds (round : EStateM ε κ (Option α)) : Nat → κ → List κ
  | 0, _ => []
  | n + 1, s =>
    s :: match round s with
      | .ok none t => rounds round n t
      | _ => []

/-- A loop ends as one of its rounds does. -/
def EndsAs (last : EStateM.Result ε κ (Option α)) (out : EStateM.Result ε κ α) : Prop :=
  (∃ a t, last = .ok (some a) t ∧ out = .ok a t) ∨ ∃ e t, last = .error e t ∧ out = .error e t

namespace EndsAs

theorem settled {a : α} {t : κ} {out : EStateM.Result ε κ α} (h : EndsAs (.ok (some a) t) out) :
    out = .ok a t := by
  obtain ⟨b, u, hlast, hout⟩ | ⟨e, u, hlast, -⟩ := h
  · injection hlast with ha ht
    rw [hout, Option.some.inj ha, ht]
  · contradiction

theorem failed {e : ε} {t : κ} {out : EStateM.Result ε κ α} (h : EndsAs (.error e t) out) :
    out = .error e t := by
  obtain ⟨a, u, hlast, -⟩ | ⟨e', u, hlast, hout⟩ := h
  · contradiction
  · injection hlast with he ht
    rw [hout, he, ht]

theorem not_again {t : κ} {out : EStateM.Result ε κ α} : ¬ EndsAs (.ok none t) out := by
  rintro (⟨a, u, hlast, -⟩ | ⟨e, u, hlast, -⟩)
  · injection hlast with hnone _
    contradiction
  · contradiction

theorem after_eq {last : EStateM.Result ε κ (Option α)} {out : EStateM.Result ε κ α}
    (h : EndsAs last out) : after out = after last := by
  obtain ⟨a, t, rfl, rfl⟩ | ⟨e, t, rfl, rfl⟩ := h
  · rfl
  · rfl

end EndsAs

section

variable {round : EStateM ε κ (Option α)} {spent : EStateM ε κ α} {s t : κ}

theorem loop_again (h : round s = .ok none t) (n : Nat) :
    loop round spent (n + 1) s = loop round spent n t := by
  rw [loop, bind_ok h]

theorem rounds_again (h : round s = .ok none t) (n : Nat) :
    rounds round (n + 1) s = s :: rounds round n t := by
  rw [rounds, h]

theorem rounds_last (h : ∀ t, round s ≠ .ok none t) (n : Nat) : rounds round (n + 1) s = [s] := by
  unfold rounds
  split
  · rename_i t hround
    exact absurd hround (h t)
  · rfl

theorem loop_last (h : ∀ t, round s ≠ .ok none t) (n : Nat) :
    EndsAs (round s) (loop round spent (n + 1) s) := by
  unfold loop
  cases hround : round s with
  | error e u =>
    rw [bind_error hround]
    exact .inr ⟨e, u, rfl, rfl⟩
  | ok settled u =>
    rw [bind_ok hround]
    cases settled with
    | some a => exact .inl ⟨a, u, rfl, rfl⟩
    | none => exact absurd hround (h u)

/-- A round asks for one more, or it is the last one. -/
theorem again_or_last (round : EStateM ε κ (Option α)) (s : κ) :
    (∃ t, round s = .ok none t) ∨ ∀ t, round s ≠ .ok none t := by
  by_cases h : ∃ t, round s = .ok none t
  · exact .inl h
  · exact .inr (not_exists.mp h)

/-- Every round but the last asked for one more. -/
theorem mem_dropLast_rounds {n : Nat} (h : t ∈ (rounds round n s).dropLast) :
    ∃ u, round t = .ok none u := by
  induction n generalizing s with
  | zero => contradiction
  | succ n ih =>
    obtain ⟨u, hagain⟩ | hlast := again_or_last round s
    · rw [rounds_again hagain] at h
      cases hrest : rounds round n u with
      | nil =>
        rw [hrest] at h
        contradiction
      | cons v vs =>
        rw [hrest, List.dropLast_cons_cons, ← hrest] at h
        obtain rfl | h := List.mem_cons.mp h
        · exact ⟨u, hagain⟩
        · exact ih h
    · rw [rounds_last hlast] at h
      contradiction

end

/-- `I` holds in every round, and `measure` falls from each to the next. -/
structure Falls (round : EStateM ε κ (Option α)) (I : κ → Prop) (measure : κ → Nat) : Prop where
  kept : ∀ {s t}, I s → round s = .ok none t → I t
  falls : ∀ {s t}, I s → round s = .ok none t → measure t < measure s

namespace Falls

variable {round : EStateM ε κ (Option α)} {I : κ → Prop} {measure : κ → Nat}
  (h : Falls round I measure) {s : κ} (hs : I s)
include h hs

theorem holds (n : Nat) : ∀ t ∈ rounds round n s, I t := by
  induction n generalizing s with
  | zero => exact fun t ht => absurd ht List.not_mem_nil
  | succ n ih =>
    obtain ⟨u, hagain⟩ | hlast := again_or_last round s
    · rw [rounds_again hagain]
      exact List.forall_mem_cons.mpr ⟨hs, ih (h.kept hs hagain)⟩
    · rw [rounds_last hlast]
      exact List.forall_mem_singleton.mpr hs

theorem length_le (n : Nat) : (rounds round n s).length ≤ measure s + 1 := by
  induction n generalizing s with
  | zero => exact Nat.zero_le _
  | succ n ih =>
    obtain ⟨u, hagain⟩ | hlast := again_or_last round s
    · have hrest := ih (h.kept hs hagain)
      have hfalls := h.falls hs hagain
      rw [rounds_again hagain, List.length_cons]
      omega
    · rw [rounds_last hlast]
      exact Nat.le_add_left _ _

/-- A loop with enough rounds ends with the last of them. -/
theorem ends (spent : EStateM ε κ α) {n : Nat} (hn : measure s < n) :
    ∃ last, (rounds round n s).getLast? = some last ∧
      EndsAs (round last) (loop round spent n s) := by
  induction n generalizing s with
  | zero => contradiction
  | succ n ih =>
    obtain ⟨u, hagain⟩ | hlast := again_or_last round s
    · have hfalls := h.falls hs hagain
      obtain ⟨last, hrounds, hends⟩ := ih (h.kept hs hagain) (by omega)
      rw [rounds_again hagain, loop_again hagain]
      refine ⟨last, ?_, hends⟩
      rw [List.getLast?_cons, hrounds, Option.getD_some]
    · rw [rounds_last hlast]
      exact ⟨s, rfl, loop_last hlast n⟩

/-- A loop is within `P` if each of its rounds is, where a round that begins at `s` stays within it
exactly when `Q s`. -/
theorem within_iff (spent : EStateM ε κ α) (P : κ → Prop) {Q : κ → Prop}
    (hround : ∀ s, I s → (P (after (round s)) ↔ P s ∧ Q s))
    (hspent : ∀ s, P (after (spent s)) ↔ P s) (n : Nat) :
    P (after (loop round spent n s)) ↔ P s ∧ ∀ t ∈ rounds round n s, Q t := by
  induction n generalizing s with
  | zero =>
    rw [loop, hspent]
    exact (and_iff_left fun t ht => absurd ht List.not_mem_nil).symm
  | succ n ih =>
    have hfirst := hround s hs
    obtain ⟨u, hagain⟩ | hlast := again_or_last round s
    · have hnext : P u ↔ P s ∧ Q s := by
        rw [hagain] at hfirst
        exact hfirst
      rw [rounds_again hagain, loop_again hagain, ih (h.kept hs hagain), hnext,
        List.forall_mem_cons, and_assoc]
    · rw [rounds_last hlast, (loop_last hlast n).after_eq, hfirst, List.forall_mem_singleton]

/-- What each round adds to a record, the loop does. -/
theorem recorded {spent : EStateM ε κ α} (record : κ → List ω) {entry : κ → ω}
    (hround : ∀ s, I s → record (after (round s)) = entry s :: record s)
    (hspent : ∀ s, record (after (spent s)) = record s) (n : Nat) :
    record (after (loop round spent n s)) = ((rounds round n s).map entry).reverse ++ record s := by
  induction n generalizing s with
  | zero => exact hspent s
  | succ n ih =>
    have hentry := hround s hs
    obtain ⟨u, hagain⟩ | hlast := again_or_last round s
    · have hrecord : record u = entry s :: record s := by
        rw [hagain] at hentry
        exact hentry
      rw [rounds_again hagain, loop_again hagain, ih (h.kept hs hagain), hrecord, List.map_cons,
        List.reverse_cons, List.append_assoc]
      rfl
    · rw [rounds_last hlast, (loop_last hlast n).after_eq, hentry]
      rfl

end Falls

end CardReader.Run
