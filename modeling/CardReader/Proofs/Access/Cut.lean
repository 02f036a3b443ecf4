import CardReader.Proofs.Access.Basic
import CardReader.Proofs.Frame.Header

namespace CardReader.Access

variable {ε : Type}

def rplethCut (data : Bytes) : Try ε Cut :=
  if data.length < 4 then return .incomplete
  else do
    let n ← byteAt data 3
    return Cut.whole (4 + n.toNat + 1) data

/-- A cut after a marker at the front and a header of `n` bytes. -/
def headed (marker : UInt8) (n : Nat) (data : Bytes) (cut : Try ε Cut) : Try ε Cut := do
  let first ← byteAt data 0
  if first ≠ marker then return Cut.noise marker data
  else if data.length < n then return .incomplete
  else cut

def stidStrCut (data : Bytes) : Try ε Cut :=
  headed stx 7 data do
    let hi ← byteAt data 1
    let lo ← byteAt data 2
    return Cut.whole ((Bytes.word hi lo).toNat + 7) data

def osdpCut (data : Bytes) : Try ε Cut :=
  headed som 6 data do
    let lo ← byteAt data 2
    let hi ← byteAt data 3
    let total := (Bytes.word hi lo).toNat
    return if total < osdpLeast ∨ osdpMost < total then .discard 1 else Cut.whole total data

def stidPrgCut (data : Bytes) : Try ε Cut :=
  headed stx 5 data do
    let n ← byteAt data 4
    return Cut.whole (1 + 4 + n.toNat + 2) data

def promagCut (data : Bytes) : Try ε Cut := do
  let first ← byteAt data 0
  return if first = esc ∨ first = bel then .frame data.length
    else if first = stx then Cut.line data
    else .discard data.length

def headCut (family : Family) (data : Bytes) : Try ε Cut :=
  if data.isEmpty then return .incomplete
  else
    match family with
    | .rpleth => rplethCut data
    | .stidStr => stidStrCut data
    | .osdp => osdpCut data
    | .axess => return Cut.line data
    | .stidPrg => stidPrgCut data
    | .promag => promagCut data

/-- A size that stands in a header of `n` bytes with a marker at the front. -/
def sized (marker : UInt8) (n : Nat) (data : Bytes) (size : Try ε Nat) : Try ε (Option Nat) :=
  if n ≤ data.length then do
    let first ← byteAt data 0
    if first = marker then return some (← size) else return none
  else return none

/-- Size of the frame that a header announces, if it is long enough and has the right start. -/
def announced (family : Family) (data : Bytes) : Try ε (Option Nat) :=
  match family with
  | .rpleth =>
    if 4 ≤ data.length then do
      let n ← byteAt data 3
      return some (4 + n.toNat + 1)
    else return none
  | .stidStr =>
    sized stx 3 data do
      let hi ← byteAt data 1
      let lo ← byteAt data 2
      return (Bytes.word hi lo).toNat + 7
  | .osdp =>
    sized som 4 data do
      let lo ← byteAt data 2
      let hi ← byteAt data 3
      return (Bytes.word hi lo).toNat
  | .stidPrg =>
    sized stx 5 data do
      let n ← byteAt data 4
      return 1 + 4 + n.toNat + 2
  | .axess | .promag => return none

/-- What the head is when at most `capacity` bytes can be held. -/
def boundedCut (capacity : Nat) (family : Family) (data : Bytes) : Try ε Cut := do
  match ← announced family data with
  | some total => if capacity < total then return .discard 1 else headCut family data
  | none => headCut family data

/-- Where one turn of the search leads. -/
inductive Turn where
  | stop
  | found (frame rest : Bytes)
  | again (rest : Bytes)

/-- One turn: a frame is split off; noise, at least one byte and at most all, is dropped. -/
def turn (capacity : Nat) (family : Family) (data : Bytes) : Try ε Turn := do
  match ← boundedCut capacity family data with
  | .incomplete => return .stop
  | .frame n =>
    let (frame, rest) ← split data n
    return .found frame rest
  | .discard n =>
    let n ← clamp n 1 data.length
    let _ ← slice data 0 n
    let (_, rest) ← split data n
    return .again rest

theorem rplethCut_eq (data : Bytes) : (rplethCut data : Try ε Cut) = .ok (Cut.rpleth data) := by
  unfold rplethCut
  rcases data with _ | ⟨a, _ | ⟨b, _ | ⟨c, _ | ⟨n, rest⟩⟩⟩⟩
  · rfl
  · rfl
  · rfl
  · rfl
  · have hlength : ¬ (a :: b :: c :: n :: rest).length < 4 := by simp
    rw [if_neg hlength, byteAt_eq (by simp), Run.ok_bind, Nat.add_comm 4]
    rfl

theorem headed_eq (data : Bytes) (hdata : data ≠ []) (marker : UInt8) (n : Nat) {cut : Try ε Cut}
    {expected : Cut} (hcut : n ≤ data.length → cut = .ok expected) :
    headed marker n data cut =
      .ok (if data.head? ≠ some marker then Cut.noise marker data
        else if ¬ Cut.reaches n data then .incomplete
        else expected) := by
  unfold headed
  cases data with
  | nil => exact absurd rfl hdata
  | cons a rest =>
    rw [byteAt_eq (by simp), Run.ok_bind]
    by_cases ha : a = marker
    · rw [if_neg (not_not_intro (by exact ha)), if_neg (not_not_intro (by rw [ha]; rfl))]
      by_cases hn : (a :: rest).length < n
      · rw [if_pos hn, if_pos (by rw [Cut.reaches_iff]; omega)]
        rfl
      · have hreach := (Cut.reaches_iff n (a :: rest)).mpr (by omega)
        rw [if_neg hn, if_neg (not_not_intro hreach), hcut (by omega)]
    · have hhead : (a :: rest).head? ≠ some marker := fun h => ha (Option.some.inj h)
      rw [if_pos (by exact ha), if_pos hhead]
      rfl

theorem stidStrCut_eq {data : Bytes} (h : data ≠ []) :
    (stidStrCut data : Try ε Cut) = .ok (Cut.stidStr data) := by
  refine headed_eq data h stx 7 fun hn => ?_
  rw [byteAt_eq (by omega), Run.ok_bind, byteAt_eq (by omega)]
  rfl

theorem osdpCut_eq {data : Bytes} (h : data ≠ []) :
    (osdpCut data : Try ε Cut) = .ok (Cut.osdp data) := by
  refine headed_eq data h som 6 fun hn => ?_
  rw [byteAt_eq (by omega), Run.ok_bind, byteAt_eq (by omega)]
  rfl

theorem stidPrgCut_eq {data : Bytes} (h : data ≠ []) :
    (stidPrgCut data : Try ε Cut) = .ok (Cut.stidPrg data) := by
  refine headed_eq data h stx 5 fun hn => ?_
  rw [byteAt_eq (by omega), Run.ok_bind, Nat.add_comm (1 + 4)]
  rfl

theorem promagCut_eq {data : Bytes} (h : data ≠ []) :
    (promagCut data : Try ε Cut) = .ok (Cut.promag data) := by
  cases data with
  | nil => exact absurd rfl h
  | cons a rest =>
    unfold promagCut Cut.promag
    rw [byteAt_eq (by simp)]
    simp only [List.head?_cons, Option.some.injEq]
    rfl

/-- The head is judged by position as the search judges it. -/
theorem headCut_eq (family : Family) (data : Bytes) :
    (headCut family data : Try ε Cut) = .ok (Cut.ofHead family data) := by
  unfold headCut Cut.ofHead
  by_cases h : data.isEmpty
  · rw [if_pos h, if_pos h]
    rfl
  · have hdata : data ≠ [] := fun hnil => h (List.isEmpty_iff.mpr hnil)
    rw [if_neg h, if_neg h]
    cases family with
    | rpleth => exact rplethCut_eq data
    | stidStr => exact stidStrCut_eq hdata
    | osdp => exact osdpCut_eq hdata
    | axess => rfl
    | stidPrg => exact stidPrgCut_eq hdata
    | promag => exact promagCut_eq hdata

theorem sized_eq {data : Bytes} {n : Nat} (hn : 0 < n) (hlong : n ≤ data.length) (marker : UInt8)
    {size : Try ε Nat} {total : Nat} (hsize : size = .ok total) :
    sized marker n data size =
      .ok (if data.getD 0 0 = marker then some total else none) := by
  unfold sized
  rw [if_pos hlong, byteAt_eq (by omega), Run.ok_bind, hsize]
  exact (apply_ite Except.ok _ _ _).symm

/-- Reading a size by position gives the size that the header announces, and stays inside. -/
theorem announced_eq (family : Family) (data : Bytes) :
    (announced family data : Try ε (Option Nat)) = .ok (Cut.announced? family data) := by
  cases family with
  | rpleth =>
    rcases data with _ | ⟨a, _ | ⟨b, _ | ⟨c, _ | ⟨n, rest⟩⟩⟩⟩
    · rfl
    · rfl
    · rfl
    · rfl
    · simp only [announced, List.length_cons, Nat.le_add_left, if_true]
      rw [byteAt_eq (by simp), Run.ok_bind, Nat.add_comm 4]
      rfl
  | stidStr =>
    rcases data with _ | ⟨a, _ | ⟨hi, _ | ⟨lo, rest⟩⟩⟩
    · rfl
    · rfl
    · rfl
    · refine sized_eq (by decide) (by simp) stx ?_
      rw [byteAt_eq (by simp), byteAt_eq (by simp)]
      rfl
  | osdp =>
    rcases data with _ | ⟨a, _ | ⟨b, _ | ⟨lo, _ | ⟨hi, rest⟩⟩⟩⟩
    · rfl
    · rfl
    · rfl
    · rfl
    · refine sized_eq (by decide) (by simp) som ?_
      rw [byteAt_eq (by simp), byteAt_eq (by simp)]
      rfl
  | stidPrg =>
    rcases data with _ | ⟨a, _ | ⟨b, _ | ⟨c, _ | ⟨d, _ | ⟨n, rest⟩⟩⟩⟩⟩
    · rfl
    · rfl
    · rfl
    · rfl
    · rfl
    · refine sized_eq (by decide) (by simp) stx ?_
      rw [byteAt_eq (by simp), Run.ok_bind, Nat.add_comm (1 + 4)]
      rfl
  | axess => rfl
  | promag => rfl

theorem boundedCut_eq (capacity : Nat) (family : Family) (data : Bytes) :
    (boundedCut capacity family data : Try ε Cut) = .ok (Cut.within capacity family data) := by
  unfold boundedCut Cut.within
  rw [announced_eq, Run.ok_bind, headCut_eq]
  cases Cut.announced? family data with
  | none => rfl
  | some total => exact (apply_ite Except.ok _ _ _).symm

/-- Noise is not empty, since there are bytes. -/
theorem turn_eq (capacity : Nat) (family : Family) (a : UInt8) (rest : Bytes) :
    (turn capacity family (a :: rest) : Try ε Turn) =
      .ok (match Cut.within capacity family (a :: rest) with
        | .incomplete => .stop
        | .frame n => .found ((a :: rest).take n) ((a :: rest).drop n)
        | .discard n => .again (rest.drop (n - 1))) := by
  unfold turn
  rw [boundedCut_eq, Run.ok_bind]
  cases hcut : Cut.within capacity family (a :: rest) with
  | incomplete => rfl
  | frame n =>
    obtain ⟨-, hn⟩ := Cut.within_frame family capacity (a :: rest) n hcut
    dsimp only
    rw [split_eq hn]
    rfl
  | discard n =>
    have hlength : (a :: rest).length = rest.length + 1 := rfl
    obtain ⟨k, hk⟩ : ∃ k, max 1 (min n (a :: rest).length) = k + 1 :=
      ⟨max 1 (min n (a :: rest).length) - 1, by omega⟩
    have hdropped : rest.drop k = rest.drop (n - 1) := by
      by_cases hn : n - 1 ≤ rest.length
      · rw [show k = n - 1 by omega]
      · rw [List.drop_eq_nil_of_le (by omega), List.drop_eq_nil_of_le (by omega)]
    dsimp only
    rw [clamp_eq (by simp), Run.ok_bind, hk, slice_eq (Nat.zero_le _) (by omega), Run.ok_bind,
      split_eq (by omega), Run.ok_bind]
    change Except.ok (Turn.again (rest.drop k)) = _
    rw [hdropped]

theorem turn_nil (capacity : Nat) (family : Family) :
    (turn capacity family [] : Try ε Turn) = .ok .stop := by
  unfold turn
  rw [boundedCut_eq, Cut.within_nil]
  rfl

/-- A turn leaves fewer bytes to search, so the search ends. -/
theorem turn_again {capacity : Nat} {family : Family} {data rest : Bytes}
    (h : (turn capacity family data : Try ε Turn) = .ok (.again rest)) :
    rest.length < data.length := by
  cases data with
  | nil =>
    rw [turn_nil] at h
    cases h
  | cons a tail =>
    rw [turn_eq] at h
    split at h
    · cases h
    · cases h
    · obtain rfl := Turn.again.inj (Except.ok.inj h)
      rw [List.length_drop, List.length_cons]
      omega

def takeFrame (capacity : Nat) (family : Family) (data : Bytes) : Try ε (Option Bytes × Bytes) :=
  match _h : turn capacity family data with
  | .error e => .error e
  | .ok .stop => .ok (none, data)
  | .ok (.found frame rest) => .ok (some frame, rest)
  | .ok (.again rest) => takeFrame capacity family rest
termination_by data.length
decreasing_by exact turn_again _h

theorem takeFrame_turn (capacity : Nat) (family : Family) (data : Bytes) :
    (takeFrame capacity family data : Try ε (Option Bytes × Bytes)) =
      match turn capacity family data with
      | .error e => .error e
      | .ok .stop => .ok (none, data)
      | .ok (.found frame rest) => .ok (some frame, rest)
      | .ok (.again rest) => takeFrame capacity family rest := by
  rw [takeFrame]
  split <;> rename_i h <;> rw [h]

theorem takeFrame_eq (capacity : Nat) (family : Family) (data : Bytes) :
    (takeFrame capacity family data : Try ε (Option Bytes × Bytes)) =
      .ok (FrameBuffer.take capacity family data) := by
  fun_induction FrameBuffer.take capacity family data with
  | case1 => rw [takeFrame_turn, turn_nil]
  | case2 a rest hcut => rw [takeFrame_turn, turn_eq, hcut]
  | case3 a rest n hcut => rw [takeFrame_turn, turn_eq, hcut]
  | case4 a rest n hcut ih =>
    rw [takeFrame_turn, turn_eq, hcut]
    exact ih

/-- Appends received bytes to a buffer. -/
def store (b : FrameBuffer) (received : Bytes) : Try ε FrameBuffer := do
  let kept := if b.capacity < b.data.length + received.length then [] else b.data
  let part ← slice received (received.length - b.capacity) received.length
  return { b with data := kept ++ part }

theorem store_eq (b : FrameBuffer) (received : Bytes) :
    (store b received : Try ε FrameBuffer) = .ok (b.extend received) := by
  unfold store
  dsimp only
  rw [slice_rest (Nat.sub_le _ _)]
  rfl

def nextFrame (family : Family) (b : FrameBuffer) : Try ε (Option Bytes × FrameBuffer) := do
  let (frame, data) ← takeFrame b.capacity family b.data
  return (frame, { b with data })

theorem nextFrame_eq (family : Family) (b : FrameBuffer) :
    (nextFrame family b : Try ε (Option Bytes × FrameBuffer)) = .ok (b.next family) := by
  unfold nextFrame
  rw [takeFrame_eq]
  rfl

end CardReader.Access
