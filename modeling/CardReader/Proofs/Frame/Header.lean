import CardReader.Frame.Buffer
import Mathlib.Tactic.Common

namespace CardReader

/-- How frames start: a marker, if there is one, and a length that is known after `known` bytes.
The head is judged after `enough` bytes. -/
structure Header where
  marker : Option UInt8
  known : Nat
  enough : Nat
  total : Bytes → Nat
  refuses : Nat → Bool
  total_append : ∀ data more, known ≤ data.length → total (data ++ more) = total data
  total_pos : ∀ data, refuses (total data) = false → 0 < total data

namespace Header

/-- Whether a frame cannot start with `a`. -/
def misses (h : Header) (a : UInt8) : Bool := h.marker.any (· != a)

/-- What a head that starts with the marker is. -/
def judge (h : Header) (capacity : Nat) (data : Bytes) : Cut :=
  if data.length < h.known then .incomplete
  else if capacity < h.total data then .discard 1
  else if data.length < h.enough then .incomplete
  else if h.refuses (h.total data) then .discard 1
  else if h.total data ≤ data.length then .frame (h.total data)
  else .incomplete

theorem misses_eq_false (h : Header) (a m : UInt8) (hm : h.marker = some m)
    (ha : h.misses a = false) : a = m := by
  have hn : (m != a) = false := by simpa only [misses, hm, Option.any_some] using ha
  exact (bne_eq_false_iff_eq.mp hn).symm

theorem misses_eq_true (h : Header) (a : UInt8) (ha : h.misses a = true) :
    ∃ m, h.marker = some m ∧ a ≠ m := by
  unfold misses at ha
  cases hm : h.marker with
  | none => rw [hm] at ha; cases ha
  | some m =>
    rw [hm, Option.any_some] at ha
    exact ⟨m, rfl, (bne_iff_ne.mp ha).symm⟩

/-- A judgment other than that bytes are missing stands, whatever arrives after it. -/
theorem judge_append (h : Header) (capacity : Nat) (data more : Bytes)
    (hc : h.judge capacity data ≠ .incomplete) :
    h.judge capacity (data ++ more) = h.judge capacity data := by
  have hk : ¬data.length < h.known := fun hn => hc (if_pos hn)
  have hl : (data ++ more).length = data.length + more.length := List.length_append
  have hk' : ¬(data ++ more).length < h.known := by omega
  have ht := h.total_append data more (by omega)
  simp only [judge, hk, hk', ht, if_false] at hc ⊢
  by_cases hb : capacity < h.total data
  · simp only [hb, if_true]
  · simp only [hb, if_false] at hc ⊢
    have he : ¬data.length < h.enough := fun hn => hc (if_pos hn)
    have he' : ¬(data ++ more).length < h.enough := by omega
    simp only [he, he', if_false] at hc ⊢
    by_cases hr : h.refuses (h.total data) = true
    · rw [if_pos hr, if_pos hr]
    · rw [if_neg hr] at hc ⊢
      have ht' : h.total data ≤ data.length := by
        by_contra hn
        exact hc (if_neg hn)
      rw [if_neg hr, if_pos ht', if_pos (by omega)]

theorem judge_frame (h : Header) (capacity : Nat) (data : Bytes) (n : Nat)
    (hf : h.judge capacity data = .frame n) :
    n = h.total data ∧ 0 < n ∧ n ≤ data.length ∧ n ≤ capacity := by
  unfold judge at hf
  split_ifs at hf with h1 h2 h3 h4 h5
  have hn : h.total data = n := by simpa using hf
  have hp := h.total_pos data (by simpa using h4)
  omega

theorem judge_discard (h : Header) (capacity : Nat) (data : Bytes) (n : Nat)
    (hd : h.judge capacity data = .discard n) : n = 1 := by
  unfold judge at hd
  split_ifs at hd <;> simpa using hd.symm

theorem getD_append_left (data more : Bytes) (i : Nat) (h : i < data.length) :
    (data ++ more).getD i 0 = data.getD i 0 := by
  simp [List.getD, List.getElem?_append_left h]

/-- Fourth byte of a Rpleth answer: the bytes of its data. -/
def rpleth : Header where
  marker := none
  known := 4
  enough := 4
  total data := (data.getD 3 0).toNat + 5
  refuses _ := false
  total_append data more h := by rw [getD_append_left _ _ _ (by omega)]
  total_pos data _ := by omega

/-- Second and third byte of a STid STR frame: the size of its message. -/
def stidStr : Header where
  marker := some stx
  known := 3
  enough := 7
  total data := (Bytes.word (data.getD 1 0) (data.getD 2 0)).toNat + 7
  refuses _ := false
  total_append data more h := by
    rw [getD_append_left _ _ _ (by omega), getD_append_left _ _ _ (by omega)]
  total_pos data _ := by omega

/-- Third and fourth byte of an OSDP frame: the size of all of it. -/
def osdp : Header where
  marker := some som
  known := 4
  enough := 6
  total data := (Bytes.word (data.getD 3 0) (data.getD 2 0)).toNat
  refuses n := decide (n < osdpLeast ∨ osdpMost < n)
  total_append data more h := by
    rw [getD_append_left _ _ _ (by omega), getD_append_left _ _ _ (by omega)]
  total_pos data h := by
    have hn := of_decide_eq_false h
    unfold osdpLeast at hn
    omega

/-- Fifth byte of a STid PRG frame: the bytes of its data. -/
def stidPrg : Header where
  marker := some stx
  known := 5
  enough := 5
  total data := (data.getD 4 0).toNat + 7
  refuses _ := false
  total_append data more h := by rw [getD_append_left _ _ _ (by omega)]
  total_pos data _ := by omega

end Header

/-- The header of a family that announces the size of its frames. -/
def Family.header? : Family → Option Header
  | .rpleth => some .rpleth
  | .stidStr => some .stidStr
  | .osdp => some .osdp
  | .stidPrg => some .stidPrg
  | .axess | .promag => none

/-- Only OSDP refuses sizes of its own accord. -/
theorem Family.refuses_iff (family : Family) (h : Header) (hh : family.header? = some h)
    (size : Nat) :
    h.refuses size = true ↔ family = .osdp ∧ (size < osdpLeast ∨ osdpMost < size) := by
  cases family with
  | osdp =>
    obtain rfl := Option.some.inj hh
    simp [Header.osdp]
  | axess => cases hh
  | promag => cases hh
  | _ =>
    obtain rfl := Option.some.inj hh
    exact iff_of_false Bool.false_ne_true (fun h => Family.noConfusion h.1)

/-- Without a header, and with frames that later bytes do not change, there are lines alone. -/
theorem Family.eq_axess (family : Family) (hn : family.header? = none) (hp : family ≠ .promag) :
    family = .axess := by
  cases family with
  | axess => rfl
  | promag => exact absurd rfl hp
  | _ => cases hn

namespace Cut

theorem whole_eq (total : Nat) (data : Bytes) :
    whole total data = if total ≤ data.length then .frame total else .incomplete := by
  by_cases h : total ≤ data.length
  · rw [whole, if_pos ((reaches_iff _ _).mpr h), if_pos h]
  · rw [whole, if_neg (mt (reaches_iff _ _).mp h), if_neg h]

/-- A header that starts right and is there as a whole announces its size. -/
theorem announced?_header (family : Family) (h : Header) (hh : family.header? = some h)
    (a : UInt8) (rest : Bytes) (ha : h.misses a = false) (hk : h.known ≤ (a :: rest).length) :
    announced? family (a :: rest) = some (h.total (a :: rest)) := by
  cases family with
  | rpleth =>
    obtain rfl := Option.some.inj hh
    rcases rest with _ | ⟨b, _ | ⟨c, _ | ⟨n, rest⟩⟩⟩
    · simp [Header.rpleth] at hk
    · simp [Header.rpleth] at hk
    · simp [Header.rpleth] at hk
    · rfl
  | stidStr =>
    obtain rfl := Option.some.inj hh
    obtain rfl : a = stx := Header.misses_eq_false _ a _ rfl ha
    rcases rest with _ | ⟨hi, _ | ⟨lo, rest⟩⟩
    · simp [Header.stidStr] at hk
    · simp [Header.stidStr] at hk
    · simp [announced?, Header.stidStr]
  | osdp =>
    obtain rfl := Option.some.inj hh
    obtain rfl : a = som := Header.misses_eq_false _ a _ rfl ha
    rcases rest with _ | ⟨b, _ | ⟨lo, _ | ⟨hi, rest⟩⟩⟩
    · simp [Header.osdp] at hk
    · simp [Header.osdp] at hk
    · simp [Header.osdp] at hk
    · simp [announced?, Header.osdp]
  | stidPrg =>
    obtain rfl := Option.some.inj hh
    obtain rfl : a = stx := Header.misses_eq_false _ a _ rfl ha
    rcases rest with _ | ⟨b, _ | ⟨c, _ | ⟨d, _ | ⟨n, rest⟩⟩⟩⟩
    · simp [Header.stidPrg] at hk
    · simp [Header.stidPrg] at hk
    · simp [Header.stidPrg] at hk
    · simp [Header.stidPrg] at hk
    · simp [announced?, Header.stidPrg]
  | axess => cases hh
  | promag => cases hh

/-- A head without the marker is noise at least up to the next marker. -/
theorem within_noise (family : Family) (h : Header) (hf : family.header? = some h) (m : UInt8)
    (hm : h.marker = some m) (capacity : Nat) (a : UInt8) (rest : Bytes) (ha : a ≠ m) :
    within capacity family (a :: rest) = .discard (1 + rest.findIdx (· == m)) := by
  cases family with
  | rpleth =>
    obtain rfl := Option.some.inj hf
    exact absurd hm (by simp [Header.rpleth])
  | stidStr =>
    obtain rfl := Option.some.inj hf
    obtain rfl : stx = m := Option.some.inj hm
    have hn : announced? .stidStr (a :: rest) = none := by
      rcases rest with _ | ⟨b, _ | ⟨c, rest⟩⟩ <;> simp [announced?, ha]
    simp [within, hn, ofHead, stidStr, noise, ha]
  | osdp =>
    obtain rfl := Option.some.inj hf
    obtain rfl : som = m := Option.some.inj hm
    have hn : announced? .osdp (a :: rest) = none := by
      rcases rest with _ | ⟨b, _ | ⟨c, _ | ⟨d, rest⟩⟩⟩ <;> simp [announced?, ha]
    simp [within, hn, ofHead, osdp, noise, ha]
  | stidPrg =>
    obtain rfl := Option.some.inj hf
    obtain rfl : stx = m := Option.some.inj hm
    have hn : announced? .stidPrg (a :: rest) = none := by
      rcases rest with _ | ⟨b, _ | ⟨c, _ | ⟨d, _ | ⟨e, rest⟩⟩⟩⟩ <;> simp [announced?, ha]
    simp [within, hn, ofHead, stidPrg, noise, ha]
  | axess => cases hf
  | promag => cases hf

/-- A head that starts right is what its header says. -/
theorem within_judge (family : Family) (h : Header) (hf : family.header? = some h)
    (capacity : Nat) (a : UInt8) (rest : Bytes) (ha : h.misses a = false) :
    within capacity family (a :: rest) = h.judge capacity (a :: rest) := by
  -- Both sides match on the bytes of the header, so heads that are too short for it come first.
  cases family with
  | rpleth =>
    obtain rfl := Option.some.inj hf
    rcases rest with _ | ⟨b, _ | ⟨c, _ | ⟨n, rest⟩⟩⟩
    · rfl
    · rfl
    · rfl
    · have hk : ¬rest.length + 1 + 1 + 1 + 1 < 4 := by omega
      simp [within, announced?, ofHead, rpleth, Header.judge, Header.rpleth, whole_eq, hk]
  | stidStr =>
    obtain rfl := Option.some.inj hf
    obtain rfl : a = stx := Header.misses_eq_false _ a _ rfl ha
    rcases rest with _ | ⟨b, _ | ⟨c, rest⟩⟩
    · rfl
    · rfl
    · have hk : ¬rest.length + 1 + 1 + 1 < 3 := by omega
      have he : rest.length + 1 + 1 + 1 < 7 ↔ rest.length < 4 := by omega
      simp [within, announced?, ofHead, stidStr, Header.judge, Header.stidStr, whole_eq,
        reaches_iff, hk, he]
  | osdp =>
    obtain rfl := Option.some.inj hf
    obtain rfl : a = som := Header.misses_eq_false _ a _ rfl ha
    rcases rest with _ | ⟨b, _ | ⟨c, _ | ⟨d, rest⟩⟩⟩
    · rfl
    · rfl
    · rfl
    · have hk : ¬rest.length + 1 + 1 + 1 + 1 < 4 := by omega
      have he : rest.length + 1 + 1 + 1 + 1 < 6 ↔ rest.length < 2 := by omega
      simp [within, announced?, ofHead, osdp, Header.judge, Header.osdp, whole_eq, reaches_iff,
        hk, he]
  | stidPrg =>
    obtain rfl := Option.some.inj hf
    obtain rfl : a = stx := Header.misses_eq_false _ a _ rfl ha
    rcases rest with _ | ⟨b, _ | ⟨c, _ | ⟨d, _ | ⟨n, rest⟩⟩⟩⟩
    · rfl
    · rfl
    · rfl
    · rfl
    · have hk : ¬rest.length + 1 + 1 + 1 + 1 + 1 < 5 := by omega
      simp [within, announced?, ofHead, stidPrg, Header.judge, Header.stidPrg, whole_eq,
        reaches_iff, hk]
  | axess => cases hf
  | promag => cases hf

/-- A head is noise, of which there is no more than there are bytes, or it starts right and is what
its header says. -/
theorem within_header (family : Family) (h : Header) (hf : family.header? = some h)
    (capacity : Nat) (a : UInt8) (rest : Bytes) :
    (∃ k ≤ rest.length, within capacity family (a :: rest) = .discard (1 + k)) ∨
      h.misses a = false ∧ within capacity family (a :: rest) = h.judge capacity (a :: rest) := by
  cases ha : h.misses a with
  | true =>
    obtain ⟨m, hm, hne⟩ := h.misses_eq_true a ha
    exact .inl ⟨_, List.findIdx_le_length, within_noise family h hf m hm capacity a rest hne⟩
  | false => exact .inr ⟨rfl, within_judge family h hf capacity a rest ha⟩

theorem line_frame (data : Bytes) (n : Nat) (hf : line data = .frame n) :
    0 < n ∧ n ≤ data.length := by
  unfold line at hf
  split at hf
  · rename_i i hi
    obtain rfl : i + 1 = n := Cut.frame.inj hf
    have hl := (List.findIdx?_eq_some_iff_getElem.mp hi).1
    omega
  · cases hf

theorem line_append (data more : Bytes) (hc : line data ≠ .incomplete) :
    line (data ++ more) = line data := by
  unfold line at hc ⊢
  rw [List.findIdx?_append]
  cases hi : data.findIdx? (· == cr) with
  | none => rw [hi] at hc; exact absurd rfl hc
  | some i => rfl

theorem within_axess (capacity : Nat) (data : Bytes) : within capacity .axess data = line data := by
  cases data with
  | nil => rfl
  | cons a rest => simp [within, announced?, ofHead]

theorem within_promag (capacity : Nat) (a : UInt8) (rest : Bytes) :
    within capacity .promag (a :: rest) = promag (a :: rest) := by
  simp [within, announced?, ofHead]

/-- A frame is not empty and is there as a whole. -/
theorem within_frame (family : Family) (capacity : Nat) (data : Bytes) (n : Nat)
    (hf : within capacity family data = .frame n) : 0 < n ∧ n ≤ data.length := by
  cases data with
  | nil => rw [within_nil] at hf; cases hf
  | cons a rest =>
    cases hh : family.header? with
    | some h =>
      obtain ⟨k, -, hw⟩ | ⟨-, hw⟩ := within_header family h hh capacity a rest
      · rw [hw] at hf
        cases hf
      · rw [hw] at hf
        exact ⟨(h.judge_frame capacity _ n hf).2.1, (h.judge_frame capacity _ n hf).2.2.1⟩
    | none =>
      cases family with
      | axess => rw [within_axess] at hf; exact line_frame _ n hf
      | promag =>
        rw [within_promag, promag] at hf
        split_ifs at hf
        · obtain rfl : (a :: rest).length = n := Cut.frame.inj hf
          exact ⟨Nat.succ_pos _, Nat.le_refl _⟩
        · exact line_frame _ n hf
      | _ => cases hh

/-- What the head is when noise is taken one byte at a time. -/
def first (capacity : Nat) (family : Family) (data : Bytes) : Cut :=
  match within capacity family data with
  | .discard _ => .discard 1
  | c => c

theorem first_frame (family : Family) (capacity : Nat) (data : Bytes) (n : Nat)
    (hf : first capacity family data = .frame n) : 0 < n ∧ n ≤ data.length := by
  unfold first at hf
  cases hw : within capacity family data with
  | incomplete => rw [hw] at hf; cases hf
  | frame k =>
    rw [hw] at hf
    obtain rfl := frame.inj hf
    exact within_frame family capacity data k hw
  | discard k => rw [hw] at hf; cases hf

theorem first_nil (family : Family) (capacity : Nat) :
    first capacity family [] = .incomplete := by
  rw [first, within_nil]

/-- What a head is does not change when more bytes arrive, once it is known. -/
theorem first_append (family : Family) (hp : family ≠ .promag) (capacity : Nat)
    (data more : Bytes) (hc : first capacity family data ≠ .incomplete) :
    first capacity family (data ++ more) = first capacity family data := by
  cases data with
  | nil => exact absurd (first_nil family capacity) hc
  | cons a rest =>
    rw [List.cons_append]
    cases hh : family.header? with
    | some h =>
      cases ha : h.misses a with
      | true =>
        obtain ⟨m, hm, hne⟩ := h.misses_eq_true a ha
        simp only [first, within_noise family h hh m hm capacity a _ hne]
      | false =>
        have hw (tail : Bytes) := within_judge family h hh capacity a tail ha
        have hj : h.judge capacity (a :: rest) ≠ .incomplete := by
          intro hi
          exact hc (by rw [first, hw, hi])
        have he := h.judge_append capacity (a :: rest) more hj
        rw [List.cons_append] at he
        simp only [first, hw, he]
    | none =>
      obtain rfl := family.eq_axess hh hp
      have hl : line (a :: rest) ≠ .incomplete := by
        intro hi
        exact hc (by rw [first, within_axess, hi])
      have he := line_append (a :: rest) more hl
      rw [List.cons_append] at he
      simp only [first, within_axess, he]

end Cut

end CardReader
