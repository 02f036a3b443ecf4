import CardReader.Bytes.Cursor
import CardReader.Proofs.Access.Basic

namespace CardReader.Access

variable {α β : Type}

/-- A position in a byte string. -/
structure Place where
  data : Bytes
  position : Nat

namespace Place

abbrev Read (α : Type) := EStateM (Stop FrameError) Place α

def remaining : Read Nat := do
  let p ← get
  step (minus p.data.length p.position)

def take (n : Nat) : Read Bytes := do
  let left ← remaining
  let p ← get
  if left < n then throw (.reported (.tooShort (p.position + n) p.data.length))
  let part ← step (slice p.data p.position (p.position + n))
  set { p with position := p.position + n }
  return part

def byte : Read UInt8 := do
  let part ← take 1
  step (byteAt part 0)

/-- Upper and lower half of a number of two bytes, in the order they are read. -/
def pair : Read (UInt8 × UInt8) := do
  let part ← take 2
  let part ← step (slice part 0 2)
  let first ← step (byteAt part 0)
  let second ← step (byteAt part 1)
  return (first, second)

def bigEndian : Read UInt16 := do
  let (hi, lo) ← pair
  return Bytes.word hi lo

def littleEndian : Read UInt16 := do
  let (lo, hi) ← pair
  return Bytes.word hi lo

def remainder : Read Bytes := do
  let p ← get
  let part ← step (slice p.data p.position p.data.length)
  set { p with position := p.data.length }
  return part

def run (read : Read α) (data : Bytes) : Try FrameError α :=
  match read ⟨data, 0⟩ with
  | .ok a _ => .ok a
  | .error e _ => .error e

def Inside (p : Place) : Prop := p.position ≤ p.data.length

/-- What a cursor has before it. -/
def cursor (p : Place) : Cursor := ⟨p.position, p.data.drop p.position⟩

/-- From inside, `x` does what `y` does at the cursor, and ends inside. -/
def Follows (x : Read α) (y : Cursor.Read α) : Prop :=
  ∀ p : Place, p.Inside →
    match y p.cursor with
    | .ok a c => ∃ q : Place, x p = .ok a q ∧ q.cursor = c ∧ q.Inside
    | .error e _ => ∃ q : Place, x p = .error (.reported e) q

namespace Follows

theorem pure (a : α) : Follows (Pure.pure a) (Pure.pure a) := fun p hp => ⟨p, rfl, rfl, hp⟩

theorem throw (e : FrameError) :
    Follows (MonadExcept.throw (.reported e) : Read α) (MonadExcept.throw e) :=
  fun p _ => ⟨p, rfl⟩

/-- Reads that follow a cursor one after the other follow it together. -/
theorem bind {x : Read α} {y : Cursor.Read α} {f : α → Read β} {g : α → Cursor.Read β}
    (hx : Follows x y) (hf : ∀ a, Follows (f a) (g a)) : Follows (x >>= f) (y >>= g) := by
  intro p hp
  have hstart := hx p hp
  cases hy : y p.cursor with
  | ok a c =>
    rw [hy] at hstart
    obtain ⟨q, hq, rfl, hinside⟩ := hstart
    rw [Run.bind_ok hy, Run.bind_ok hq]
    exact hf a q hinside
  | error e c =>
    rw [hy] at hstart
    obtain ⟨q, hq⟩ := hstart
    rw [Run.bind_error hy, Run.bind_error hq]
    exact ⟨q, rfl⟩

theorem ite {c : Prop} [Decidable c] {x x' : Read α} {y y' : Cursor.Read α} (h : Follows x y)
    (h' : Follows x' y') : Follows (if c then x else x') (if c then y else y') := by
  by_cases hc : c
  · rw [if_pos hc, if_pos hc]
    exact h
  · rw [if_neg hc, if_neg hc]
    exact h'

theorem guarded {c : Prop} [Decidable c] (e : FrameError) {f : PUnit → Read α}
    {g : PUnit → Cursor.Read α} (h : Follows (f ⟨⟩) (g ⟨⟩)) :
    Follows (if c then (MonadExcept.throw (.reported e) : Read PUnit) >>= f else f ⟨⟩)
      (if c then (MonadExcept.throw e : Cursor.Read PUnit) >>= g else g ⟨⟩) :=
  ite (fun p _ => ⟨p, rfl⟩) h

/-- What a read comes to does not depend on how it counts. -/
theorem run {x : Read α} {y : Cursor.Read α} (h : Follows x y) (data : Bytes) :
    Place.run x data = lift (Cursor.run y data) := by
  have hstart := h ⟨data, 0⟩ (Nat.zero_le _)
  unfold Place.run Cursor.run
  change match y (Cursor.start data) with
    | .ok a c => ∃ q : Place, x ⟨data, 0⟩ = .ok a q ∧ q.cursor = c ∧ q.Inside
    | .error e _ => ∃ q : Place, x ⟨data, 0⟩ = .error (.reported e) q at hstart
  cases hy : y (Cursor.start data) with
  | ok a c =>
    rw [hy] at hstart
    obtain ⟨q, hq, -⟩ := hstart
    rw [hq]
    rfl
  | error e c =>
    rw [hy] at hstart
    obtain ⟨q, hq⟩ := hstart
    rw [hq]
    rfl

end Follows

theorem length_cursor {p : Place} (hp : p.Inside) :
    p.cursor.position + p.cursor.rest.length = p.data.length := by
  change p.position + (p.data.drop p.position).length = _
  rw [List.length_drop]
  exact Nat.add_sub_cancel' hp

theorem remaining_run {p : Place} (hp : p.Inside) :
    remaining p = .ok (p.data.length - p.position) p := by
  change step (minus p.data.length p.position) p = _
  rw [minus_eq hp]
  rfl

theorem take_run {p : Place} (hp : p.Inside) (n : Nat) :
    take n p =
      if p.data.length < p.position + n then
        .error (.reported (.tooShort (p.position + n) p.data.length)) p
      else .ok ((p.data.drop p.position).take n) { p with position := p.position + n } := by
  have hposition : p.position ≤ p.data.length := hp
  unfold take
  rw [Run.bind_ok (remaining_run hp), Run.get_bind_run]
  by_cases hn : p.data.length < p.position + n
  · rw [if_pos hn, if_pos (by omega)]
    rfl
  · rw [if_neg hn, if_neg (by omega), slice_eq (Nat.le_add_right _ _) (Nat.le_of_not_lt hn),
      Nat.add_sub_cancel_left]
    rfl

theorem follows_take (n : Nat) : Follows (take n) (Cursor.take n) := by
  intro p hp
  have hlength := length_cursor hp
  have hposition : p.position ≤ p.data.length := hp
  have hcursor : p.cursor.position = p.position := rfl
  unfold Cursor.take
  by_cases hn : p.data.length < p.position + n
  · rw [if_pos (by omega), take_run hp, if_pos hn, hlength]
    exact ⟨p, rfl⟩
  · rw [if_neg (by omega), take_run hp, if_neg hn]
    refine ⟨_, rfl, ?_, Nat.le_of_not_lt hn⟩
    change Cursor.mk (p.position + n) (p.data.drop (p.position + n)) =
      ⟨p.position + n, (p.data.drop p.position).drop n⟩
    rw [List.drop_drop]

/-- What is taken has the length that was asked for. -/
theorem take_length {p q : Place} {n : Nat} {part : Bytes} (hp : p.Inside)
    (h : take n p = .ok part q) : part.length = n := by
  rw [take_run hp] at h
  split at h
  · contradiction
  · injection h with hpart _
    rw [← hpart, List.length_take, List.length_drop]
    omega

/-- What is read of the bytes taken, when there are as many as were asked for. -/
theorem follows_taken {n : Nat} {f : Bytes → Read α} {g : Bytes → α}
    (hf : ∀ part : Bytes, part.length = n → f part = Pure.pure (g part)) :
    Follows (take n >>= f) (Cursor.take n >>= fun part => Pure.pure (g part)) := by
  intro p hp
  have hstart := follows_take n p hp
  cases hy : Cursor.take n p.cursor with
  | ok part c =>
    rw [hy] at hstart
    obtain ⟨q, hq, rfl, hinside⟩ := hstart
    rw [Run.bind_ok hy, Run.bind_ok hq, hf part (take_length hp hq)]
    exact ⟨q, rfl, rfl, hinside⟩
  | error e c =>
    rw [hy] at hstart
    obtain ⟨q, hq⟩ := hstart
    rw [Run.bind_error hy, Run.bind_error hq]
    exact ⟨q, rfl⟩

theorem follows_byte : Follows byte Cursor.byte := by
  refine follows_taken fun part hpart => ?_
  obtain ⟨b, rfl⟩ := List.length_eq_one_iff.mp hpart
  rfl

theorem follows_pair (f : UInt8 → UInt8 → α) :
    Follows (pair >>= fun ends => Pure.pure (f ends.1 ends.2))
      (Cursor.take 2 >>= fun part => Pure.pure (f (part.getD 0 0) (part.getD 1 0))) := by
  unfold pair
  rw [bind_assoc]
  refine follows_taken fun part hpart => ?_
  match part, hpart with
  | [first, second], _ => rfl

theorem follows_bigEndian : Follows bigEndian Cursor.bigEndian :=
  follows_pair fun hi lo => Bytes.word hi lo

theorem follows_littleEndian : Follows littleEndian Cursor.littleEndian :=
  follows_pair fun lo hi => Bytes.word hi lo

theorem remainder_run {p : Place} (hp : p.Inside) :
    remainder p = .ok (p.data.drop p.position) { p with position := p.data.length } := by
  unfold remainder
  rw [Run.get_bind_run, slice_rest hp]
  rfl

theorem follows_remainder : Follows remainder Cursor.remainder := by
  intro p hp
  refine ⟨_, remainder_run hp, ?_, Nat.le_refl _⟩
  change Cursor.mk p.data.length (p.data.drop p.data.length) = ⟨_, []⟩
  rw [length_cursor hp, List.drop_length]

end Place

end CardReader.Access
