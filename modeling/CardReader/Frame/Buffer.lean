import CardReader.Frame.Cut

namespace CardReader

/-- Received bytes and how many of them may be held. Bytes that do not fit drop what was stored
before them. -/
structure FrameBuffer where
  data : Bytes
  capacity : Nat
  deriving DecidableEq

namespace FrameBuffer

/-- Bytes of the longest STid STR frame. -/
def defaultCapacity : Nat := 65535 + 7

def empty (capacity : Nat) : FrameBuffer := ⟨[], capacity⟩

/-- Appends received bytes; of more than fit, the last ones are kept. -/
def extend (b : FrameBuffer) (received : Bytes) : FrameBuffer :=
  let kept := if b.capacity < b.data.length + received.length then [] else b.data
  { b with data := kept ++ received.drop (received.length - b.capacity) }

def clear (b : FrameBuffer) : FrameBuffer := { b with data := [] }

/-- Takes the first frame from `data`, with the noise before it. -/
def take (capacity : Nat) (family : Family) (data : Bytes) : Option Bytes × Bytes :=
  match data with
  | [] => (none, [])
  | b :: rest =>
    match Cut.within capacity family (b :: rest) with
    | .incomplete => (none, b :: rest)
    | .frame n => (some ((b :: rest).take n), (b :: rest).drop n)
    | .discard n => take capacity family (rest.drop (n - 1))
termination_by data.length
decreasing_by simp only [List.length_drop, List.length_cons]; omega

def next (family : Family) (b : FrameBuffer) : Option Bytes × FrameBuffer :=
  let (frame, data) := take b.capacity family b.data
  (frame, { b with data })

/-- Takes frames out of `data` until there is none; `fuel` bounds their number. -/
def takeAll (capacity : Nat) (family : Family) : Nat → Bytes → List Bytes × Bytes
  | 0, data => ([], data)
  | fuel + 1, data =>
    match take capacity family data with
    | (none, rest) => ([], rest)
    | (some frame, rest) =>
      let (frames, rest) := takeAll capacity family fuel rest
      (frame :: frames, rest)

/-- Takes every frame out of the buffer; a frame has at least one byte. -/
def drain (family : Family) (b : FrameBuffer) : List Bytes × FrameBuffer :=
  let (frames, data) := takeAll b.capacity family (b.data.length + 1) b.data
  (frames, { b with data })

theorem take_nil (capacity : Nat) (family : Family) : take capacity family [] = (none, []) := by
  rw [take]

end FrameBuffer

end CardReader
