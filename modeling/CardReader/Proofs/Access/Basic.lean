import CardReader.Bytes.Basic
import CardReader.Proofs.Run

namespace CardReader.Access

variable {ε κ α β : Type}

/-- Why a computation stops early. -/
inductive Stop (ε : Type) where
  /-- An index, a slice, a split, a clamp or a difference is out of bounds. -/
  | outside
  | reported (cause : ε)

/-- A computation that takes byte strings apart. -/
abbrev Try (ε α : Type) := Except (Stop ε) α

def byteAt (data : Bytes) (i : Nat) : Try ε UInt8 :=
  match data[i]? with
  | some b => .ok b
  | none => .error .outside

def slice? (data : Bytes) (lo hi : Nat) : Option Bytes :=
  if lo ≤ hi ∧ hi ≤ data.length then some ((data.drop lo).take (hi - lo)) else none

def slice (data : Bytes) (lo hi : Nat) : Try ε Bytes :=
  match slice? data lo hi with
  | some part => .ok part
  | none => .error .outside

def split (data : Bytes) (n : Nat) : Try ε (Bytes × Bytes) :=
  if n ≤ data.length then .ok (data.take n, data.drop n) else .error .outside

def minus (a b : Nat) : Try ε Nat := if b ≤ a then .ok (a - b) else .error .outside

/-- A number brought between two bounds. -/
def clamp (n lo hi : Nat) : Try ε Nat :=
  if lo ≤ hi then .ok (max lo (min n hi)) else .error .outside

def put (data : Bytes) (i : Nat) (f : UInt8 → UInt8) : Try ε Bytes :=
  if i < data.length then .ok (data.modify i f) else .error .outside

def report (cause : ε) : Try ε α := .error (.reported cause)

/-- A computation without positions. -/
def lift : Except ε α → Try ε α
  | .ok a => .ok a
  | .error e => .error (.reported e)

/-- A run without positions. -/
def lifted (x : EStateM ε κ α) : EStateM (Stop ε) κ α := fun s =>
  match x s with
  | .ok a t => .ok a t
  | .error e t => .error (.reported e) t

def step : Try ε α → EStateM (Stop ε) κ α
  | .ok a => pure a
  | .error e => throw e

section

variable {data : Bytes}

theorem byteAt_eq {i : Nat} (h : i < data.length) :
    (byteAt data i : Try ε UInt8) = .ok (data.getD i 0) := by
  unfold byteAt
  rw [List.getD_eq_getElem?_getD, List.getElem?_eq_getElem h]
  rfl

theorem slice?_eq {lo hi : Nat} (h : lo ≤ hi) (h' : hi ≤ data.length) :
    slice? data lo hi = some ((data.drop lo).take (hi - lo)) := if_pos ⟨h, h'⟩

theorem slice_eq {lo hi : Nat} (h : lo ≤ hi) (h' : hi ≤ data.length) :
    (slice data lo hi : Try ε Bytes) = .ok ((data.drop lo).take (hi - lo)) := by
  rw [slice, slice?_eq h h']

theorem slice_rest {lo : Nat} (h : lo ≤ data.length) :
    (slice data lo data.length : Try ε Bytes) = .ok (data.drop lo) := by
  rw [slice_eq h (Nat.le_refl _), List.take_of_length_le (Nat.le_of_eq List.length_drop)]

theorem split_eq {n : Nat} (h : n ≤ data.length) :
    (split data n : Try ε (Bytes × Bytes)) = .ok (data.take n, data.drop n) := if_pos h

theorem put_eq {i : Nat} (h : i < data.length) (f : UInt8 → UInt8) :
    (put data i f : Try ε Bytes) = .ok (data.modify i f) := if_pos h

end

theorem minus_eq {a b : Nat} (h : b ≤ a) : (minus a b : Try ε Nat) = .ok (a - b) := if_pos h

theorem clamp_eq {n lo hi : Nat} (h : lo ≤ hi) :
    (clamp n lo hi : Try ε Nat) = .ok (max lo (min n hi)) := if_pos h

/-- What is lifted stays inside. -/
theorem lift_inside (x : Except ε α) : lift x ≠ .error .outside := by
  cases x with
  | ok a => exact nofun
  | error e => exact nofun

theorem lift_ite {c : Prop} [Decidable c] (x y : Except ε α) :
    lift (if c then x else y) = if c then lift x else lift y := apply_ite lift c x y

theorem lift_bind (x : Except ε α) (f : α → Except ε β) :
    lift (x >>= f) = lift x >>= fun a => lift (f a) := by
  cases x with
  | ok a => rfl
  | error e => rfl

theorem lifted_get : lifted (get : EStateM ε κ κ) = get := rfl

theorem lifted_run_ok {x : EStateM ε κ α} {s t : κ} {a : α} (h : x s = .ok a t) :
    lifted x s = .ok a t := by
  rw [lifted, h]

theorem lifted_run_error {x : EStateM ε κ α} {s t : κ} {e : ε} (h : x s = .error e t) :
    lifted x s = .error (.reported e) t := by
  rw [lifted, h]

theorem lifted_bind (x : EStateM ε κ α) (f : α → EStateM ε κ β) :
    lifted (x >>= f) = lifted x >>= fun a => lifted (f a) := by
  funext s
  cases h : x s with
  | ok a t =>
    rw [Run.bind_ok (lifted_run_ok h), lifted, Run.bind_ok h]
    rfl
  | error e t => rw [Run.bind_error (lifted_run_error h), lifted_run_error (Run.bind_error h f)]

theorem lifted_ite {c : Prop} [Decidable c] (x y : EStateM ε κ α) :
    lifted (if c then x else y) = if c then lifted x else lifted y := apply_ite lifted c x y

/-- What is lifted stays inside. -/
theorem lifted_inside (x : EStateM ε κ α) (s t : κ) : lifted x s ≠ .error .outside t := by
  unfold lifted
  cases x s with
  | ok a t => exact nofun
  | error e t => exact nofun

end CardReader.Access
