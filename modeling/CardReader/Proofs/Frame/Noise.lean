import CardReader.Proofs.Frame.Capacity

namespace CardReader

/-- A size that a frame cannot have: it does not fit, or no OSDP frame is so short or so long. -/
def Family.Impossible (family : Family) (capacity size : Nat) : Prop :=
  capacity < size ∨ family = .osdp ∧ (size < osdpLeast ∨ osdpMost < size)

namespace Cut

/-- A marker with an impossible size is noise, and the bytes after it are not. -/
theorem within_impossible (family : Family) (h : Header) (hh : family.header? = some h)
    (capacity : Nat) (a : UInt8) (rest : Bytes) (ha : h.misses a = false)
    (hlong : 7 ≤ (a :: rest).length)
    (hsize : family.Impossible capacity (h.total (a :: rest))) :
    within capacity family (a :: rest) = .discard 1 := by
  obtain ⟨hknown, henough⟩ := family.header?_enough h hh
  rw [within_judge family h hh capacity a rest ha, Header.judge, if_neg (by omega)]
  by_cases hcapacity : capacity < h.total (a :: rest)
  · rw [if_pos hcapacity]
  · have hosdp := hsize.resolve_left hcapacity
    have hrefuses := (family.refuses_iff h hh _).mpr hosdp
    rw [if_neg hcapacity, if_neg (by omega), if_pos hrefuses]

theorem within_possible (family : Family) (h : Header) (hh : family.header? = some h)
    (capacity : Nat) (a : UInt8) (rest : Bytes) (ha : h.misses a = false)
    (hlong : 7 ≤ (a :: rest).length)
    (hsize : ¬family.Impossible capacity (h.total (a :: rest)))
    (hwhole : h.total (a :: rest) ≤ (a :: rest).length) :
    within capacity family (a :: rest) = .frame (h.total (a :: rest)) := by
  obtain ⟨hknown, henough⟩ := family.header?_enough h hh
  obtain ⟨hcapacity, hosdp⟩ := not_or.mp hsize
  have hrefuses := mt (family.refuses_iff h hh _).mp hosdp
  rw [within_judge family h hh capacity a rest ha, Header.judge, if_neg (by omega),
    if_neg hcapacity, if_neg (by omega), if_neg hrefuses, if_pos hwhole]

end Cut

namespace FrameBuffer

variable {family : Family} {h : Header} {m : UInt8} {capacity : Nat} {noise frame rest : Bytes}

/-- A frame of a possible size at the head is found whatever follows it. -/
theorem take_frame (hh : family.header? = some h) (hm : h.marker = some m)
    (hstart : frame.head? = some m) (hlong : 7 ≤ frame.length)
    (hsize : Cut.announced? family frame = some frame.length)
    (hpossible : ¬family.Impossible capacity frame.length) :
    take capacity family (frame ++ rest) = (some frame, rest) := by
  obtain ⟨tail, rfl⟩ := List.head?_eq_some_iff.mp hstart
  have ha : h.misses m = false := by simp [Header.misses, hm]
  have hknown := (family.header?_enough h hh).1
  have hannounced := Cut.announced?_header family h hh m tail ha (by omega)
  have htotal : h.total (m :: tail) = (m :: tail).length :=
    Option.some.inj (hannounced.symm.trans hsize)
  have hlength : (m :: (tail ++ rest)).length = (m :: tail).length + rest.length := by
    rw [← List.cons_append, List.length_append]
  have hkept : h.total (m :: (tail ++ rest)) = (m :: tail).length :=
    (h.total_append (m :: tail) rest (by omega)).trans htotal
  have hwithin := Cut.within_possible family h hh capacity m (tail ++ rest) ha (by omega)
    (by rwa [hkept]) (by omega)
  rw [List.cons_append, take_cons, hwithin, hkept]
  dsimp only
  rw [← List.cons_append, List.take_left, List.drop_left]

/-- Every marker of the noise announces, with whatever bytes stand behind it, an impossible size. -/
def Misleading (capacity : Nat) (family : Family) (m : UInt8) (noise data : Bytes) : Prop :=
  ∀ i, noise[i]? = some m → ∀ size, Cut.announced? family (data.drop i) = some size →
    family.Impossible capacity size

/-- The first byte of noise is dropped, be it a marker or not. -/
theorem take_noise_byte (hh : family.header? = some h) (hm : h.marker = some m)
    (hp : family ≠ .promag) {a : UInt8} {data : Bytes} (hlong : 7 ≤ (a :: data).length)
    (hfalse : a = m → ∀ size, Cut.announced? family (a :: data) = some size →
      family.Impossible capacity size) :
    take capacity family (a :: data) = take capacity family data := by
  have hfirst : Cut.first capacity family (a :: data) = .discard 1 := by
    by_cases ha : a = m
    · have hstarts : h.misses a = false := by simp [Header.misses, hm, ha]
      have hknown := (family.header?_enough h hh).1
      have hannounced := Cut.announced?_header family h hh a data hstarts (by omega)
      rw [Cut.first, Cut.within_impossible family h hh capacity a data hstarts hlong
        (hfalse ha _ hannounced)]
    · rw [Cut.first, Cut.within_noise family h hh m hm capacity a data ha]
  rw [take_first family hp, hfirst, List.tail_cons]

/-- Markers of the noise are dropped one by one, and between them the search goes on with the next
one. -/
theorem take_past_noise (hh : family.header? = some h) (hm : h.marker = some m)
    (hp : family ≠ .promag) (hstart : frame.head? = some m) (hlong : 7 ≤ frame.length)
    (hsize : Cut.announced? family frame = some frame.length)
    (hpossible : ¬family.Impossible capacity frame.length)
    (hfalse : Misleading capacity family m noise (noise ++ frame ++ rest)) :
    take capacity family (noise ++ frame ++ rest) = (some frame, rest) := by
  induction noise with
  | nil => exact take_frame hh hm hstart hlong hsize hpossible
  | cons a noise ih =>
    have hbyte : take capacity family (a :: (noise ++ frame ++ rest)) =
        take capacity family (noise ++ frame ++ rest) := by
      apply take_noise_byte hh hm hp
      · simp only [List.length_cons, List.length_append]
        omega
      · intro ha
        exact hfalse 0 (congrArg some ha)
    rw [List.cons_append, List.cons_append, hbyte]
    exact ih fun i hi => hfalse (i + 1) hi

/-- A frame behind noise comes out as it is, and what follows it stays, if every start marker in the
noise announces an impossible size, be it with bytes of the frame. -/
theorem next_past_noise
    (hfamily : (family, m) ∈ [(Family.stidStr, stx), (Family.osdp, som), (Family.stidPrg, stx)])
    (hfit : (noise ++ frame ++ rest).length ≤ capacity) (hstart : frame.head? = some m)
    (hlong : 7 ≤ frame.length) (hsize : Cut.announced? family frame = some frame.length)
    (hmost : family = .osdp → frame.length ≤ osdpMost)
    (hfalse : Misleading capacity family m noise (noise ++ frame ++ rest)) :
    ((empty capacity).extend (noise ++ frame ++ rest)).next family =
      (some frame, ⟨rest, capacity⟩) := by
  obtain ⟨h, hh, hm, hp⟩ : ∃ h, family.header? = some h ∧ h.marker = some m ∧
      family ≠ .promag := by
    simp only [List.mem_cons, Prod.mk.injEq, List.not_mem_nil, or_false] at hfamily
    obtain ⟨rfl, rfl⟩ | ⟨rfl, rfl⟩ | ⟨rfl, rfl⟩ := hfamily
    · exact ⟨.stidStr, rfl, rfl, by decide⟩
    · exact ⟨.osdp, rfl, rfl, by decide⟩
    · exact ⟨.stidPrg, rfl, rfl, by decide⟩
  have hpossible : ¬family.Impossible capacity frame.length := by
    rintro (hcapacity | ⟨hosdp, hleast | hover⟩)
    · rw [List.length_append, List.length_append] at hfit
      omega
    · exact absurd hlong (Nat.not_le_of_lt hleast)
    · exact absurd (hmost hosdp) (Nat.not_le_of_lt hover)
  have htake : take capacity family (noise ++ frame ++ rest) = (some frame, rest) :=
    take_past_noise hh hm hp hstart hlong hsize hpossible hfalse
  have hheld : (empty capacity).extend (noise ++ frame ++ rest) =
      ⟨noise ++ frame ++ rest, capacity⟩ :=
    extend_fits (empty capacity) _ (Nat.le_trans (Nat.le_of_eq (Nat.zero_add _)) hfit)
  rw [hheld, next, htake]

/-- Two start bytes before a reply: the first one is far too long, and so is the second one, which
takes its length from the head of the reply. -/
theorem next_past_noise_overlapping :
    Misleading 16 .osdp som [0x53, 0xFF, 0x53]
        [0x53, 0xFF, 0x53, 0x53, 0x80, 0x08, 0x00, 0x05, 0x40, 0x11, 0x22, 0x53] ∧
      ((empty 16).extend
        [0x53, 0xFF, 0x53, 0x53, 0x80, 0x08, 0x00, 0x05, 0x40, 0x11, 0x22, 0x53]).next .osdp =
          (some [0x53, 0x80, 0x08, 0x00, 0x05, 0x40, 0x11, 0x22], ⟨[0x53], 16⟩) := by
  have hfalse : Misleading 16 .osdp som [0x53, 0xFF, 0x53]
      [0x53, 0xFF, 0x53, 0x53, 0x80, 0x08, 0x00, 0x05, 0x40, 0x11, 0x22, 0x53] := by
    intro i hi size hsize
    match i with
    | 0 =>
      have hvalue : 0x5353 = size := Option.some.inj hsize
      exact .inl (by omega)
    | 1 => exact absurd hi (by decide)
    | 2 =>
      have hvalue : 0x0880 = size := Option.some.inj hsize
      exact .inl (by omega)
    | i + 3 => cases hi
  have hfamily : (Family.osdp, som) ∈
      [(Family.stidStr, stx), (Family.osdp, som), (Family.stidPrg, stx)] := by decide
  have hfit : ([0x53, 0xFF, 0x53] ++ [0x53, 0x80, 0x08, 0x00, 0x05, 0x40, 0x11, 0x22] ++
      [0x53] : Bytes).length ≤ 16 := by decide
  exact ⟨hfalse, next_past_noise hfamily hfit rfl (by decide) rfl (by decide) hfalse⟩

end FrameBuffer

end CardReader
