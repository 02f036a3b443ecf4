import CardReader.Proofs.Frame.Capacity
import Mathlib.Data.List.DropRight

namespace CardReader

namespace Cut

theorem ofHead_of_within {capacity : Nat} {family : Family} {data : Bytes}
    (h : within capacity family data = .incomplete) : ofHead family data = .incomplete := by
  unfold within at h
  split at h
  · split_ifs at h
    exact h
  · exact h

end Cut

namespace FrameBuffer

/-- The search for a frame turn by turn, given up after `turns` of them. A turn that drops noise
drops one byte at least and all of them at most. -/
def search (capacity : Nat) (family : Family) : Nat → Bytes → Option (Option Bytes × Bytes)
  | 0, _ => none
  | turns + 1, data =>
    match Cut.within capacity family data with
    | .incomplete => some (none, data)
    | .frame n => some (some (data.take n), data.drop n)
    | .discard n => search capacity family turns (data.drop (max 1 (min n data.length)))

/-- Every turn but the last drops a byte, so a search of more turns than there are bytes ends. -/
theorem search_eq (capacity : Nat) (family : Family) {turns : Nat} {data : Bytes}
    (h : data.length < turns) :
    search capacity family turns data = some (take capacity family data) := by
  induction turns generalizing data with
  | zero => exact absurd h (Nat.not_lt_zero _)
  | succ turns ih =>
    rw [search, take_turn]
    cases hw : Cut.within capacity family data with
    | incomplete => rfl
    | frame n => rfl
    | discard n =>
      obtain ⟨hpos, hle⟩ := Cut.within_discard family capacity data n hw
      have hkept : max 1 (min n data.length) = n := by omega
      dsimp only
      rw [hkept]
      apply ih
      rw [List.length_drop]
      omega

/-- What a search through `data` makes of it: a head that nothing can be said about yet stays, or a
frame comes out of the middle. -/
def Conserved (capacity : Nat) (family : Family) (data : Bytes) : Option Bytes → Bytes → Prop
  | none, left => left <:+ data ∧ Cut.ofHead family left = .incomplete ∧
      take capacity family left = (none, left)
  | some frame, left => frame ≠ [] ∧ ∃ noise, data = noise ++ frame ++ left

theorem Conserved.of_drop {capacity : Nat} {family : Family} {data : Bytes} {n : Nat}
    {found : Option Bytes} {left : Bytes}
    (h : Conserved capacity family (data.drop n) found left) :
    Conserved capacity family data found left := by
  cases found with
  | none => exact ⟨h.1.trans (List.drop_suffix n data), h.2⟩
  | some frame =>
    obtain ⟨hne, noise, hdata⟩ := h
    refine ⟨hne, data.take n ++ noise, ?_⟩
    rw [List.append_assoc, List.append_assoc, ← List.append_assoc noise, ← hdata,
      List.take_append_drop]

/-- By recursion on what is left: noise is dropped, never none and never more than there is, or a
frame is there. -/
theorem take_conserved (capacity : Nat) (family : Family) (data : Bytes) :
    Conserved capacity family data (take capacity family data).1
      (take capacity family data).2 := by
  induction hn : data.length using Nat.strongRecOn generalizing data with
  | ind len ih =>
    have hturn := take_turn capacity family data
    cases hw : Cut.within capacity family data with
    | incomplete =>
      rw [hw] at hturn
      rw [hturn]
      exact ⟨List.suffix_refl data, Cut.ofHead_of_within hw, hturn⟩
    | frame n =>
      obtain ⟨hpos, hle⟩ := Cut.within_frame family capacity data n hw
      have hframe : (data.take n).length = n := List.length_take_of_le hle
      rw [hw] at hturn
      rw [hturn]
      refine ⟨List.ne_nil_of_length_pos (by omega), [], ?_⟩
      rw [List.nil_append, List.take_append_drop]
    | discard n =>
      obtain ⟨hpos, hle⟩ := Cut.within_discard family capacity data n hw
      rw [hw] at hturn
      rw [hturn]
      exact (ih (data.drop n).length (by rw [List.length_drop]; omega) (data.drop n) rfl).of_drop

/-- What is done with a buffer. -/
inductive Call where
  | extend (received : Bytes)
  | next (family : Family)
  | clear

def perform (b : FrameBuffer) : Call → FrameBuffer
  | .extend received => b.extend received
  | .next family => (b.next family).2
  | .clear => b.clear

def run (b : FrameBuffer) (calls : List Call) : FrameBuffer := calls.foldl perform b

theorem extend_data (b : FrameBuffer) (received : Bytes) :
    (b.extend received).data =
      if b.data.length + received.length ≤ b.capacity then b.data ++ received
      else received.rtake (min received.length b.capacity) := by
  by_cases hfit : b.data.length + received.length ≤ b.capacity
  · rw [if_pos hfit, extend_fits b received hfit]
  · have hdropped : received.length - min received.length b.capacity =
        received.length - b.capacity := by omega
    rw [if_neg hfit, List.rtake, hdropped, extend, if_pos (Nat.lt_of_not_le hfit)]
    rfl

theorem perform_capacity (b : FrameBuffer) (call : Call) : (b.perform call).capacity = b.capacity := by
  cases call <;> rfl

theorem perform_fits (b : FrameBuffer) (call : Call) (h : b.data.length ≤ b.capacity) :
    (b.perform call).data.length ≤ b.capacity := by
  cases call with
  | extend received =>
    rw [perform, extend_data]
    split_ifs with hfit
    · rw [List.length_append]
      exact hfit
    · rw [List.rtake, List.length_drop]
      omega
  | next family =>
    have hleft := take_left_length b.capacity family b.data
    exact Nat.le_trans hleft h
  | clear => exact Nat.zero_le _

theorem run_fits (b : FrameBuffer) (calls : List Call) (h : b.data.length ≤ b.capacity) :
    (b.run calls).data.length ≤ b.capacity := by
  induction calls generalizing b with
  | nil => exact h
  | cons call calls ih =>
    have hcapacity := b.perform_capacity call
    have hstep := b.perform_fits call h
    have hrest := ih (b.perform call) (by omega)
    rw [hcapacity] at hrest
    exact hrest

/-- Whatever a buffer holds and however much it may hold: a search in it ends, within as many turns
as there are bytes and one more, and the bytes are noise, the frame and the rest in their order;
what stays when there is no frame is a head that is not decided on, and stays. No calls, in whatever
order, bring more bytes into a buffer than it may hold. Received bytes come behind the others if
they fit, and else the last of them are all there is. -/
theorem bytes_conserved (b : FrameBuffer) :
    (∀ family, ∃ found left, b.next family = (found, { b with data := left }) ∧
      (∀ more, search b.capacity family (b.data.length + 1 + more) b.data = some (found, left)) ∧
      match found with
      | none => left <:+ b.data ∧ Cut.ofHead family left = .incomplete ∧
          next family { b with data := left } = (none, { b with data := left })
      | some frame => frame ≠ [] ∧ ∃ noise, b.data = noise ++ frame ++ left) ∧
    (∀ calls, ((empty b.capacity).run calls).data.length ≤ b.capacity) ∧
    ∀ received, (b.extend received).data =
      if b.data.length + received.length ≤ b.capacity then b.data ++ received
      else received.rtake (min received.length b.capacity) := by
  refine ⟨fun family => ?_, fun calls => run_fits _ calls (Nat.zero_le _), extend_data b⟩
  have hconserved := take_conserved b.capacity family b.data
  refine ⟨(take b.capacity family b.data).1, (take b.capacity family b.data).2, rfl,
    fun more => search_eq b.capacity family (by omega), ?_⟩
  generalize take b.capacity family b.data = out at hconserved ⊢
  obtain ⟨_ | frame, left⟩ := out
  · obtain ⟨hsuffix, hhead, htake⟩ := hconserved
    refine ⟨hsuffix, hhead, ?_⟩
    rw [next]
    dsimp only at htake ⊢
    rw [htake]
  · exact hconserved

end FrameBuffer

end CardReader
