import CardReader.Proofs.Frame.Chunks

namespace CardReader

theorem Family.header?_enough (family : Family) (h : Header) (hh : family.header? = some h) :
    h.known ≤ 7 ∧ h.enough ≤ 7 := by
  cases family with
  | axess => cases hh
  | promag => cases hh
  | _ => obtain rfl := Option.some.inj hh; decide

theorem Family.header?_of_ne (family : Family) (ha : family ≠ .axess) (hp : family ≠ .promag) :
    ∃ h, family.header? = some h := by
  cases family with
  | axess => exact absurd rfl ha
  | promag => exact absurd rfl hp
  | _ => exact ⟨_, rfl⟩

/-- A head that starts right and is not decided on is part of a header, or of a frame that fits. -/
theorem Header.judge_incomplete (h : Header) (capacity : Nat) (data : Bytes)
    (hi : h.judge capacity data = .incomplete) :
    data.length < h.known ∨ data.length < h.enough ∨ data.length < capacity := by
  unfold judge at hi
  split_ifs at hi <;> omega

namespace Cut

/-- A head that is not decided on is shorter than the capacity. -/
theorem first_undecided (family : Family) (h : Header) (hh : family.header? = some h)
    (capacity : Nat) (hc : 7 ≤ capacity) (data : Bytes)
    (hi : first capacity family data = .incomplete) : data.length < capacity := by
  cases data with
  | nil => exact Nat.lt_of_lt_of_le (by decide) hc
  | cons a rest =>
    have hw : within capacity family (a :: rest) = .incomplete := by
      unfold first at hi
      split at hi
      · cases hi
      · exact hi
    obtain ⟨k, -, hnoise⟩ | ⟨-, hjudge⟩ := within_header family h hh capacity a rest
    · rw [hnoise] at hw
      cases hw
    · rw [hjudge] at hw
      have hl := family.header?_enough h hh
      rcases h.judge_incomplete capacity _ hw with hs | hs | hs <;> omega

/-- Noise is at least one byte and at most all of them. -/
theorem within_discard (family : Family) (capacity : Nat) (data : Bytes) (n : Nat)
    (hd : within capacity family data = .discard n) : 0 < n ∧ n ≤ data.length := by
  cases data with
  | nil => rw [within_nil] at hd; cases hd
  | cons a rest =>
    rw [List.length_cons]
    cases hh : family.header? with
    | some h =>
      obtain ⟨k, hk, hnoise⟩ | ⟨-, hjudge⟩ := within_header family h hh capacity a rest
      · rw [hnoise] at hd
        have hn := discard.inj hd
        omega
      · rw [hjudge] at hd
        have hn := h.judge_discard capacity _ n hd
        omega
    | none =>
      have hline : line (a :: rest) ≠ .discard n := by
        unfold line
        split <;> (intro hl; cases hl)
      cases family with
      | axess => rw [within_axess] at hd; exact absurd hd hline
      | promag =>
        rw [within_promag, promag] at hd
        split_ifs at hd
        · exact absurd hd hline
        · have hn := discard.inj hd
          rw [List.length_cons] at hn
          omega
      | _ => cases hh

end Cut

namespace FrameBuffer

/-- One turn of the search for a frame. -/
theorem take_turn (capacity : Nat) (family : Family) (data : Bytes) :
    take capacity family data =
      match Cut.within capacity family data with
      | .incomplete => (none, data)
      | .frame n => (some (data.take n), data.drop n)
      | .discard n => take capacity family (data.drop n) := by
  cases data with
  | nil => rw [take_nil, Cut.within_nil]
  | cons a rest =>
    rw [take_cons]
    cases hw : Cut.within capacity family (a :: rest) with
    | incomplete => rfl
    | frame n => rfl
    | discard n =>
      obtain ⟨k, rfl⟩ := Nat.exists_eq_add_of_lt (Cut.within_discard family capacity _ n hw).1
      rfl

/-- The rule that cuts frames, on bytes of any number: `frames` come out of `data` and `left` stays
behind. `capacity` is only what the rule compares announced sizes with. -/
inductive Yields (capacity : Nat) (family : Family) : Bytes → List Bytes → Bytes → Prop
  | stay {data} (hc : Cut.within capacity family data = .incomplete) :
      Yields capacity family data [] data
  | frame {data n frames left} (hc : Cut.within capacity family data = .frame n)
      (more : Yields capacity family (data.drop n) frames left) :
      Yields capacity family data (data.take n :: frames) left
  | skip {data n frames left} (hc : Cut.within capacity family data = .discard n)
      (more : Yields capacity family (data.drop n) frames left) :
      Yields capacity family data frames left

/-- The rule cuts in one way only. -/
theorem Yields.unique {capacity : Nat} {family : Family} {data left left' : Bytes}
    {frames frames' : List Bytes} (h : Yields capacity family data frames left)
    (h' : Yields capacity family data frames' left') : frames = frames' ∧ left = left' := by
  induction h generalizing frames' left' with
  | stay hc =>
    cases h' with
    | stay => exact ⟨rfl, rfl⟩
    | frame hc' => rw [hc] at hc'; cases hc'
    | skip hc' => rw [hc] at hc'; cases hc'
  | frame hc more ih =>
    cases h' with
    | stay hc' => rw [hc] at hc'; cases hc'
    | frame hc' more' =>
      obtain rfl := Cut.frame.inj (hc.symm.trans hc')
      obtain ⟨rfl, rfl⟩ := ih more'
      exact ⟨rfl, rfl⟩
    | skip hc' => rw [hc] at hc'; cases hc'
  | skip hc more ih =>
    cases h' with
    | stay hc' => rw [hc] at hc'; cases hc'
    | frame hc' => rw [hc] at hc'; cases hc'
    | skip hc' more' =>
      obtain rfl := Cut.discard.inj (hc.symm.trans hc')
      exact ih more'

theorem yields_frames (capacity : Nat) (family : Family) (data : Bytes) :
    Yields capacity family data (frames capacity family data).1
      (frames capacity family data).2 := by
  induction hn : data.length using Nat.strongRecOn generalizing data with
  | ind len ih =>
    rw [frames_take, take_turn]
    cases hw : Cut.within capacity family data with
    | incomplete => exact .stay hw
    | frame n =>
      have hb := Cut.within_frame family capacity data n hw
      exact .frame hw (ih _ (by rw [List.length_drop]; omega) _ rfl)
    | discard n =>
      have hb := Cut.within_discard family capacity data n hw
      refine .skip hw ?_
      dsimp only
      rw [← frames_take]
      exact ih _ (by rw [List.length_drop]; omega) _ rfl

/-- The rule yields what the search over a list of any length finds. -/
theorem yields_iff (capacity : Nat) (family : Family) (data left : Bytes) (found : List Bytes) :
    Yields capacity family data found left ↔ frames capacity family data = (found, left) := by
  constructor
  · intro h
    obtain ⟨hf, hl⟩ := (yields_frames capacity family data).unique h
    exact Prod.ext hf hl
  · intro h
    have hy := yields_frames capacity family data
    rwa [h] at hy

/-- What is left after the last frame is a head that is not decided on. -/
theorem left_undecided (family : Family) (hp : family ≠ .promag) (capacity : Nat) (data : Bytes) :
    Cut.first capacity family (frames capacity family data).2 = .incomplete := by
  have hl := frames_left family hp capacity data
  generalize (frames capacity family data).2 = left at hl ⊢
  cases hc : Cut.first capacity family left with
  | incomplete => rfl
  | frame n =>
    rw [frames_frame family hp capacity left n hc] at hl
    cases (Prod.mk.inj hl).1
  | discard n =>
    rw [frames_discard family hp capacity left n hc] at hl
    have hlen := frames_left_length capacity family left.tail
    rw [hl, List.length_tail] at hlen
    cases left with
    | nil => rw [Cut.first_nil] at hc; cases hc
    | cons a rest => simp only [List.length_cons] at hlen; omega

/-- Some chunk, when it arrives, does not fit beside what is held. -/
def Overflows (family : Family) : FrameBuffer → List Bytes → Prop
  | _, [] => False
  | b, chunk :: chunks =>
    b.capacity < b.data.length + chunk.length ∨
      Overflows family ((b.extend chunk).drain family).2 chunks

def bytewise (stream : Bytes) : List Bytes := stream.map fun a => [a]

/-- A header is known after seven bytes at most, so what is held between bytes always leaves room
for the next one. -/
theorem feed_undecided (family : Family) (h : Header) (hh : family.header? = some h)
    (hp : family ≠ .promag) (stream : Bytes) (b : FrameBuffer) (hc : 7 ≤ b.capacity)
    (hi : Cut.first b.capacity family b.data = .incomplete) :
    ¬b.Overflows family (bytewise stream) ∧
      b.feed family (bytewise stream) =
        ((frames b.capacity family (b.data ++ stream)).1,
          { b with data := (frames b.capacity family (b.data ++ stream)).2 }) := by
  induction stream generalizing b with
  | nil =>
    rw [List.append_nil, frames_incomplete family hp b.capacity b.data hi]
    exact ⟨id, rfl⟩
  | cons a stream ih =>
    -- What is held is not decided on, so one more byte fits; what is left then is not either.
    have hfit : b.data.length + [a].length ≤ b.capacity :=
      Cut.first_undecided family h hh b.capacity hc b.data hi
    let s := b.data ++ [a]
    let left := (frames b.capacity family s).2
    obtain ⟨hover, hfeed⟩ := ih { b with data := left } hc (left_undecided family hp b.capacity s)
    have hdrain : (b.extend [a]).drain family =
        ((frames b.capacity family s).1, { b with data := left }) := by
      rw [extend_fits b [a] hfit, drain_frames]
    have hall : b.data ++ a :: stream = s ++ stream := (List.append_assoc b.data [a] stream).symm
    have hstep : b.feed family (bytewise (a :: stream)) =
        (((b.extend [a]).drain family).1 ++
            (feed family ((b.extend [a]).drain family).2 (bytewise stream)).1,
          (feed family ((b.extend [a]).drain family).2 (bytewise stream)).2) := rfl
    constructor
    · rintro (hcap | hmore)
      · exact absurd hfit (Nat.not_le.mpr hcap)
      · rw [hdrain] at hmore
        exact hover hmore
    · rw [hstep, hdrain, hfeed, hall, frames_append family hp b.capacity s stream]

/-- Fed byte by byte and drained after each of them, a buffer never drops what it holds, and it
yields what the rule yields on the whole stream, which may be far longer than the capacity. -/
theorem feed_bytewise (family : Family) (ha : family ≠ .axess) (hp : family ≠ .promag)
    (capacity : Nat) (hc : 7 ≤ capacity) (stream : Bytes) :
    ¬(empty capacity).Overflows family (bytewise stream) ∧
      ∀ found left, Yields capacity family stream found left ↔
        (empty capacity).feed family (bytewise stream) = (found, ⟨left, capacity⟩) := by
  obtain ⟨h, hh⟩ := family.header?_of_ne ha hp
  obtain ⟨hover, hfeed⟩ := feed_undecided family h hh hp stream (empty capacity) hc
    (Cut.first_nil family capacity)
  refine ⟨hover, fun found left => ?_⟩
  rw [yields_iff, hfeed]
  change _ ↔ ((frames capacity family stream).1,
    FrameBuffer.mk (frames capacity family stream).2 capacity) = (found, ⟨left, capacity⟩)
  constructor
  · intro hf
    rw [hf]
  · intro hf
    obtain ⟨hf, hl⟩ := Prod.mk.inj hf
    exact Prod.ext hf (FrameBuffer.mk.inj hl).1

/-- Three answers of seven bytes, the second behind noise and a header that announces too much, go
through a buffer for eight bytes. -/
theorem feed_bytewise_long :
    Family.osdp ≠ .axess ∧ Family.osdp ≠ .promag ∧ 7 ≤ 8 ∧
      ∃ left, Yields 8 .osdp
        [0x53, 0x80, 0x07, 0x00, 0x01, 0x40, 0xAA, 0x11, 0x53, 0x53, 0x00, 0xFF, 0xFF, 0x53,
          0x80, 0x07, 0x00, 0x02, 0x40, 0xBB, 0x53, 0x80, 0x07, 0x00, 0x03, 0x40, 0xCC, 0x53]
        [[0x53, 0x80, 0x07, 0x00, 0x01, 0x40, 0xAA], [0x53, 0x80, 0x07, 0x00, 0x02, 0x40, 0xBB],
          [0x53, 0x80, 0x07, 0x00, 0x03, 0x40, 0xCC]]
        left :=
  ⟨by decide, by decide, by decide, [0x53],
    ((feed_bytewise .osdp (by decide) (by decide) 8 (by decide) _).2 _ _).mpr (by decide +kernel)⟩

end FrameBuffer

end CardReader
