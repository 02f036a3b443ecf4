import CardReader.Proofs.Frame.Header

namespace CardReader.FrameBuffer

theorem take_cons (capacity : Nat) (family : Family) (a : UInt8) (rest : Bytes) :
    take capacity family (a :: rest) =
      match Cut.within capacity family (a :: rest) with
      | .incomplete => (none, a :: rest)
      | .frame n => (some ((a :: rest).take n), (a :: rest).drop n)
      | .discard n => take capacity family (rest.drop (n - 1)) :=
  take.eq_2 capacity family a rest

/-- Noise up to the next marker goes in one step or byte by byte. -/
theorem take_noise (family : Family) (h : Header) (hf : family.header? = some h) (m : UInt8)
    (hm : h.marker = some m) (capacity : Nat) (rest : Bytes) :
    take capacity family (rest.drop (rest.findIdx (· == m))) = take capacity family rest := by
  cases rest with
  | nil => rfl
  | cons b rest =>
    by_cases hb : b = m
    · simp [List.findIdx_cons, hb]
    · have hn : (b == m) = false := beq_eq_false_iff_ne.mpr hb
      rw [take_cons, Cut.within_noise family h hf m hm capacity b rest hb]
      simp [List.findIdx_cons, hn]

/-- One step of the search for a frame, with noise taken one byte at a time. -/
theorem take_first (family : Family) (hp : family ≠ .promag) (capacity : Nat) (data : Bytes) :
    take capacity family data =
      match Cut.first capacity family data with
      | .incomplete => (none, data)
      | .frame n => (some (data.take n), data.drop n)
      | .discard _ => take capacity family data.tail := by
  cases data with
  | nil => rw [Cut.first, Cut.within_nil, take_nil]
  | cons a rest =>
    rw [take_cons]
    unfold Cut.first
    cases hw : Cut.within capacity family (a :: rest) with
    | incomplete => rfl
    | frame n => rfl
    | discard n =>
      change take capacity family (rest.drop (n - 1)) = take capacity family rest
      cases hh : family.header? with
      | some h =>
        cases ha : h.misses a with
        | true =>
          obtain ⟨m, hm, hne⟩ := h.misses_eq_true a ha
          rw [Cut.within_noise family h hh m hm capacity a rest hne] at hw
          obtain rfl := Cut.discard.inj hw
          rw [Nat.add_sub_cancel_left]
          exact take_noise family h hh m hm capacity rest
        | false =>
          rw [Cut.within_judge family h hh capacity a rest ha] at hw
          obtain rfl := h.judge_discard capacity _ n hw
          rfl
      | none =>
        obtain rfl := family.eq_axess hh hp
        rw [Cut.within_axess] at hw
        unfold Cut.line at hw
        split at hw <;> cases hw

/-- A frame has one byte at least. -/
theorem take_length (capacity : Nat) (family : Family) (data frame rest : Bytes)
    (h : take capacity family data = (some frame, rest)) : rest.length < data.length := by
  fun_induction take capacity family data with
  | case1 => cases h
  | case2 a tail hw => cases h
  | case3 a tail n hw =>
    have hn := Cut.within_frame family capacity (a :: tail) n hw
    obtain rfl : (a :: tail).drop n = rest := (Prod.mk.inj h).2
    rw [List.length_drop]
    omega
  | case4 a tail n hw ih =>
    have hl := ih h
    rw [List.length_drop] at hl
    rw [List.length_cons]
    omega

theorem takeAll_fuel (capacity : Nat) (family : Family) (fuel fuel' : Nat) (data : Bytes)
    (h : data.length < fuel) (h' : data.length < fuel') :
    takeAll capacity family fuel data = takeAll capacity family fuel' data := by
  induction fuel generalizing fuel' data with
  | zero => omega
  | succ fuel ih =>
    cases fuel' with
    | zero => omega
    | succ fuel' =>
      unfold takeAll
      rcases ht : take capacity family data with ⟨_ | frame, rest⟩
      · rfl
      · have hl := take_length capacity family data frame rest ht
        simp only [ih fuel' rest (by omega) (by omega)]

def frames (capacity : Nat) (family : Family) (data : Bytes) : List Bytes × Bytes :=
  takeAll capacity family (data.length + 1) data

theorem frames_take (capacity : Nat) (family : Family) (data : Bytes) :
    frames capacity family data =
      match take capacity family data with
      | (none, rest) => ([], rest)
      | (some frame, rest) =>
        (frame :: (frames capacity family rest).1, (frames capacity family rest).2) := by
  unfold frames
  rw [takeAll]
  rcases ht : take capacity family data with ⟨_ | frame, rest⟩
  · rfl
  · have hl := take_length capacity family data frame rest ht
    simp only [takeAll_fuel capacity family data.length (rest.length + 1) rest hl (by omega)]

theorem frames_incomplete (family : Family) (hp : family ≠ .promag) (capacity : Nat)
    (data : Bytes) (h : Cut.first capacity family data = .incomplete) :
    frames capacity family data = ([], data) := by
  rw [frames_take, take_first family hp, h]

theorem frames_frame (family : Family) (hp : family ≠ .promag) (capacity : Nat)
    (data : Bytes) (n : Nat) (h : Cut.first capacity family data = .frame n) :
    frames capacity family data =
      (data.take n :: (frames capacity family (data.drop n)).1,
        (frames capacity family (data.drop n)).2) := by
  rw [frames_take, take_first family hp, h]

theorem frames_discard (family : Family) (hp : family ≠ .promag) (capacity : Nat)
    (data : Bytes) (n : Nat) (h : Cut.first capacity family data = .discard n) :
    frames capacity family data = frames capacity family data.tail := by
  rw [frames_take, take_first family hp, h]
  exact (frames_take capacity family data.tail).symm

/-- The frames in `data` come first however many bytes follow, and what they leave is enough to
find the rest. -/
theorem frames_append (family : Family) (hp : family ≠ .promag) (capacity : Nat)
    (data more : Bytes) :
    frames capacity family (data ++ more) =
      ((frames capacity family data).1 ++
          (frames capacity family ((frames capacity family data).2 ++ more)).1,
        (frames capacity family ((frames capacity family data).2 ++ more)).2) := by
  induction hn : data.length using Nat.strongRecOn generalizing data with
  | ind len ih =>
    cases hc : Cut.first capacity family data with
    | incomplete =>
      rw [frames_incomplete family hp capacity data hc, List.nil_append]
    | frame n =>
      have hb := Cut.first_frame family capacity data n hc
      have ha := Cut.first_append family hp capacity data more (by rw [hc]; intro h; cases h)
      have hd : (data ++ more).drop n = data.drop n ++ more :=
        List.drop_append_of_le_length hb.2
      have ht : (data ++ more).take n = data.take n := List.take_append_of_le_length hb.2
      have hl : (data.drop n).length < len := by rw [List.length_drop]; omega
      rw [frames_frame family hp capacity _ n (ha.trans hc),
        frames_frame family hp capacity data n hc, hd, ht, ih _ hl (data.drop n) rfl]
      rfl
    | discard n =>
      have ha := Cut.first_append family hp capacity data more (by rw [hc]; intro h; cases h)
      rw [frames_discard family hp capacity _ n (ha.trans hc),
        frames_discard family hp capacity data n hc]
      cases data with
      | nil => rw [Cut.first_nil] at hc; cases hc
      | cons a tail =>
        have hl : tail.length < len := by rw [← hn, List.length_cons]; omega
        exact ih _ hl tail rfl

/-- A second search finds nothing more. -/
theorem frames_left (family : Family) (hp : family ≠ .promag) (capacity : Nat) (data : Bytes) :
    frames capacity family (frames capacity family data).2 =
      ([], (frames capacity family data).2) := by
  have h := frames_append family hp capacity data []
  simp only [List.append_nil] at h
  have h1 := congrArg Prod.fst h
  have h2 := congrArg Prod.snd h
  exact Prod.ext (List.self_eq_append_right.mp h1) h2.symm

theorem take_left_length (capacity : Nat) (family : Family) (data : Bytes) :
    (take capacity family data).2.length ≤ data.length := by
  fun_induction take capacity family data with
  | case1 => exact Nat.le_refl _
  | case2 a tail hw => exact Nat.le_refl _
  | case3 a tail n hw =>
    rw [List.length_drop]
    omega
  | case4 a tail n hw ih =>
    rw [List.length_drop] at ih
    rw [List.length_cons]
    omega

theorem frames_left_length (capacity : Nat) (family : Family) (data : Bytes) :
    (frames capacity family data).2.length ≤ data.length := by
  induction hn : data.length using Nat.strongRecOn generalizing data with
  | ind len ih =>
    have hl := take_left_length capacity family data
    rw [frames_take]
    rcases ht : take capacity family data with ⟨_ | frame, rest⟩
    · rw [ht] at hl
      exact hn ▸ hl
    · have hs := take_length capacity family data frame rest ht
      have hi := ih rest.length (by omega) rest rfl
      exact Nat.le_trans hi (by omega)

/-- Draining is taking the next frame until there is none. -/
theorem drain_next (family : Family) (b : FrameBuffer) :
    b.drain family =
      match b.next family with
      | (none, b) => ([], b)
      | (some frame, b) => (frame :: (b.drain family).1, (b.drain family).2) := by
  have h := frames_take b.capacity family b.data
  unfold drain next
  unfold frames at h
  rw [h]
  rcases take b.capacity family b.data with ⟨_ | frame, rest⟩ <;> rfl

theorem drain_frames (family : Family) (b : FrameBuffer) :
    b.drain family = ((frames b.capacity family b.data).1,
      { b with data := (frames b.capacity family b.data).2 }) := rfl

theorem extend_fits (b : FrameBuffer) (received : Bytes)
    (h : b.data.length + received.length ≤ b.capacity) :
    b.extend received = { b with data := b.data ++ received } := by
  have hd : received.length - b.capacity = 0 := by omega
  rw [extend, if_neg (by omega), hd, List.drop_zero]

/-- Extends a buffer chunk by chunk and takes every frame out after each of them. -/
def feed (family : Family) : FrameBuffer → List Bytes → List Bytes × FrameBuffer
  | b, [] => ([], b)
  | b, chunk :: chunks =>
    let taken := (b.extend chunk).drain family
    let more := feed family taken.2 chunks
    (taken.1 ++ more.1, more.2)

/-- A buffer from which no frame can be taken goes through chunks as through all of them at once. -/
theorem feed_drained (family : Family) (hp : family ≠ .promag) (chunks : List Bytes)
    (b : FrameBuffer) (hd : b.drain family = ([], b))
    (hfit : b.data.length + chunks.flatten.length ≤ b.capacity) :
    b.feed family chunks = (b.extend chunks.flatten).drain family := by
  induction chunks generalizing b with
  | nil =>
    rw [extend_fits b _ hfit]
    simp only [feed, List.flatten_nil, List.append_nil]
    exact hd.symm
  | cons chunk chunks ih =>
    rw [List.flatten_cons, List.length_append] at hfit
    let s := b.data ++ chunk
    let left := (frames b.capacity family s).2
    have hs : s.length = b.data.length + chunk.length := List.length_append
    have hl : left.length ≤ s.length := frames_left_length b.capacity family s
    have hleft : drain family { b with data := left } = ([], { b with data := left }) := by
      rw [drain_frames]
      simp only [left, frames_left family hp]
    have hrest := ih { b with data := left } hleft (by change left.length + _ ≤ b.capacity; omega)
    have hall : b.data ++ (chunk ++ chunks.flatten) = s ++ chunks.flatten :=
      (List.append_assoc _ _ _).symm
    rw [List.flatten_cons, extend_fits b _ (by rw [List.length_append]; omega), drain_frames, hall,
      frames_append family hp]
    rw [extend_fits _ _ (by change left.length + _ ≤ b.capacity; omega), drain_frames] at hrest
    simp only [feed]
    rw [extend_fits b chunk (by omega), drain_frames]
    change ((frames b.capacity family s).1 ++ (feed family { b with data := left } chunks).1,
      (feed family { b with data := left } chunks).2) = _
    rw [hrest]

/-- Feeding chunks to an empty buffer yields the frames, and leaves the bytes, of one draining of
all the bytes together. -/
theorem feed_chunks (family : Family) (hp : family ≠ .promag) (capacity : Nat)
    (received : Bytes) (hfit : received.length ≤ capacity) (chunks : List Bytes)
    (hc : chunks.flatten = received) :
    (empty capacity).feed family chunks = ((empty capacity).extend received).drain family := by
  subst hc
  have hd : (empty capacity).drain family = ([], empty capacity) := by
    simp only [drain, empty, takeAll, take_nil]
  have hl : (empty capacity).data.length = 0 := rfl
  have hcap : (empty capacity).capacity = capacity := rfl
  exact feed_drained family hp chunks (empty capacity) hd (by omega)

/-- A false marker that is cut inside its length, and a frame cut twice. -/
theorem feed_chunks_false_marker :
    Family.osdp ≠ .promag ∧
    (empty 16).feed .osdp
        [[0x53, 0x00, 0xFF], [0xFF, 0x00, 0x53, 0x80], [0x08, 0x00, 0x05, 0x40, 0xAA],
          [0xBB, 0x53]] =
      ((empty 16).extend
        [0x53, 0x00, 0xFF, 0xFF, 0x00, 0x53, 0x80, 0x08, 0x00, 0x05, 0x40, 0xAA, 0xBB, 0x53]).drain
          .osdp :=
  ⟨by decide, feed_chunks .osdp (by decide) 16 _ (by decide) _ rfl⟩

end CardReader.FrameBuffer
