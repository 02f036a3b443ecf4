import CardReader.Proofs.Osdp.Layout
import CardReader.Proofs.Osdp.Sequence

namespace CardReader.Osdp.Framer

open Run

/-- Whether a frame opens as a reply that carries the number of the last command. -/
def accepts (f : Framer) (frame : Bytes) : Bool :=
  match openReply f.address frame with
  | .ok reply => reply.sequence == f.sequence
  | .error _ => false

theorem accepts_iff {f : Framer} {frame : Bytes} : f.accepts frame = true ↔
    ∃ reply, openReply f.address frame = .ok reply ∧ reply.sequence = f.sequence := by
  unfold accepts
  cases openReply f.address frame with
  | error e => simp
  | ok reply => simp

/-- An accepted reply moves the number on. It is an answer, or it refuses the command. -/
theorem decode_accepted {f : Framer} {frame : Bytes} (h : f.accepts frame = true) :
    (∃ answer, decode frame f = .ok answer (f.moved 1)) ∨
      ∃ code, decode frame f = .error (.status (.osdpNak code)) (f.moved 1) := by
  obtain ⟨reply, hopened, hsequence⟩ := accepts_iff.mp h
  rw [decode_run, hopened]
  dsimp only
  rw [if_neg (not_not_intro hsequence)]
  by_cases hcode : reply.code = nakReply
  · rw [if_pos hcode]
    exact .inr ⟨_, rfl⟩
  · rw [if_neg hcode]
    exact .inl ⟨_, rfl⟩

/-- Any other frame is refused for its form, its check, its address or its number, and leaves the
host as it was. -/
theorem decode_rejected {f : Framer} {frame : Bytes} (h : f.accepts frame = false) :
    ∃ e, decode frame f = .error e f ∧ e.kind = .framing := by
  unfold accepts at h
  rw [decode_run]
  cases hopened : openReply f.address frame with
  | error e => exact ⟨e, rfl, (openReply_error hopened).2⟩
  | ok reply =>
    rw [hopened] at h
    dsimp only
    rw [if_pos (ne_of_beq_false h)]
    exact ⟨_, rfl, rfl⟩

/-- Something that a host is asked to do: to frame a command, or to open a frame. -/
inductive Use where
  | command (data : Bytes)
  | reply (frame : Bytes)

def used (f : Framer) : Use → Framer
  | .command data => after (encode data f)
  | .reply frame => after (decode frame f)

def course (f : Framer) (run : List Use) : Framer := run.foldl used f

/-- The replies of a run that are accepted, each by the host that it reaches. -/
def replies (f : Framer) : List Use → Nat
  | [] => 0
  | .command data :: run => (f.used (.command data)).replies run
  | .reply frame :: run => (f.accepts frame).toNat + (f.used (.reply frame)).replies run

theorem moved_moved (f : Framer) (m n : Nat) : (f.moved m).moved n = f.moved (m + n) := by
  unfold moved
  rw [Nat.add_comm, Function.iterate_add_apply]

theorem used_command (f : Framer) (data : Bytes) : f.used (.command data) = f := encode_kept data f

theorem used_reply (f : Framer) (frame : Bytes) :
    f.used (.reply frame) = f.moved (f.accepts frame).toNat := by
  change after (decode frame f) = _
  cases haccepts : f.accepts frame with
  | true =>
    obtain ⟨answer, hrun⟩ | ⟨code, hrun⟩ := decode_accepted haccepts
    · rw [hrun]
      rfl
    · rw [hrun]
      rfl
  | false =>
    obtain ⟨e, hrun, -⟩ := decode_rejected haccepts
    rw [hrun]
    rfl

/-- Of a run, the host keeps the number of accepted replies and nothing else. -/
theorem course_eq (run : List Use) (f : Framer) : f.course run = f.moved (f.replies run) := by
  induction run generalizing f with
  | nil => rfl
  | cons use run ih =>
    cases use with
    | command data =>
      rw [course, List.foldl_cons, used_command, replies, used_command]
      exact ih f
    | reply frame =>
      rw [replies, ← moved_moved, ← used_reply]
      exact ih _

/-- The number that follows `n` accepted replies. -/
def number (n : Nat) : Nat := if n = 0 then 0 else (n - 1) % 3 + 1

theorem number_le (n : Nat) : number n ≤ 3 := by
  unfold number
  split <;> omega

theorem succ_number (n : Nat) : succ (UInt8.ofNat (number n)) = UInt8.ofNat (number (n + 1)) := by
  cases n with
  | zero => rfl
  | succ n =>
    have hthree : n % 3 = 0 ∨ n % 3 = 1 ∨ n % 3 = 2 := by omega
    have hnext : number (n + 1 + 1) = (n + 1) % 3 + 1 := rfl
    have hnumber : number (n + 1) = n % 3 + 1 := rfl
    rw [hnext, hnumber, Nat.add_mod]
    rcases hthree with h | h | h
    · rw [h]; rfl
    · rw [h]; rfl
    · rw [h]; rfl

theorem moved_sequence (address : UInt8) (n : Nat) :
    (moved n ⟨address, 0⟩).sequence = UInt8.ofNat (number n) := by
  change succ^[n] 0 = _
  induction n with
  | zero => rfl
  | succ n ih => rw [Function.iterate_succ_apply', ih, succ_number]

/-- After any run of a new host its number is 0 if no reply was accepted and goes through 1, 2, 3 in
turn with the replies that were. A command leaves the host as it is, and so does a frame that is not
accepted. What the host sends carries the number in its control byte, so that a command that is sent
again after no reply was accepted is the same frame. -/
theorem sequence_course (address : UInt8) (run : List Use) :
    let f := course ⟨address, 0⟩ run
    let n := replies ⟨address, 0⟩ run
    f.sequence.toNat = (if n = 0 then 0 else (n - 1) % 3 + 1) ∧
      (∀ command, after (encode command f) = f) ∧
      (∀ frame, f.accepts frame = false → ∃ e, decode frame f = .error e f) ∧
      (∀ command sent, outcome (encode command f) = .ok sent →
        ∃ control, sent[4]? = some control ∧ control &&& 0x03 = f.sequence) ∧
      ∀ command lost, f.replies lost = 0 →
        outcome (encode command (f.course lost)) = outcome (encode command f) := by
  intro f n
  have hsequence : f.sequence = UInt8.ofNat (number n) := by
    change (course ⟨address, 0⟩ run).sequence = _
    rw [course_eq, moved_sequence]
  have hle : f.sequence ≤ 3 := by
    have hn := number_le n
    rw [hsequence, UInt8.le_iff_toNat_le, UInt8.toNat_ofNat']
    exact Nat.le_trans (Nat.mod_le _ _) hn
  refine ⟨?_, fun command => encode_kept command f, fun frame h => ?_, fun command sent h => ?_,
    fun command lost h => ?_⟩
  · have hn := number_le n
    rw [hsequence, UInt8.toNat_ofNat', Nat.mod_eq_of_lt (by omega)]
    rfl
  · obtain ⟨e, hrun, -⟩ := decode_rejected h
    exact ⟨e, hrun⟩
  · rw [sent_eq h]
    exact ⟨f.sequence ||| crcBit, rfl, sequence_flagged hle⟩
  · rw [course_eq, h]
    rfl

/-- A poll that is answered, one that is refused, and one whose reply is damaged and then comes from
an earlier poll. -/
def shaky : List Use :=
  [.command [0x60], .reply [0x53, 0x81, 0x08, 0x00, 0x04, 0x40, 0x08, 0x06],
    .command [0x60], .reply [0x53, 0x81, 0x09, 0x00, 0x05, 0x41, 0x03, 0xF5, 0xF6],
    .command [0x60], .reply [0x53, 0x81, 0x08, 0x00, 0x06, 0x40, 0x6A, 0x61],
    .reply [0x53, 0x81, 0x08, 0x00, 0x05, 0x40, 0x39, 0x35]]

/-- The poll is sent again with the number it had. -/
theorem sequence_course_shaky : (replies ⟨1, 0⟩ shaky = 2) ∧ (course ⟨1, 0⟩ shaky = ⟨1, 2⟩) ∧
    (course ⟨1, 0⟩ shaky).sequence.toNat = (2 - 1) % 3 + 1 ∧
    (∃ e, decode [0x53, 0x81, 0x08, 0x00, 0x06, 0x40, 0x6A, 0x61] ⟨1, 2⟩ = .error e ⟨1, 2⟩) ∧
    (∃ control, (wire ⟨1, 2⟩ [0x60])[4]? = some control ∧ control &&& 0x03 = 2) ∧
    outcome (encode [0x60] (course ⟨1, 2⟩ [.reply [0x53, 0x81, 0x08]])) =
      outcome (encode [0x60] ⟨1, 2⟩) := by
  have hreplies : replies ⟨1, 0⟩ shaky = 2 := by decide +kernel
  have hcourse : course ⟨1, 0⟩ shaky = ⟨1, 2⟩ := by decide +kernel
  have hlaw := sequence_course 1 shaky
  rw [hreplies, hcourse] at hlaw
  obtain ⟨hsequence, -, hrejected, hsent, hagain⟩ := hlaw
  refine ⟨hreplies, hcourse, ?_, hrejected _ (by decide +kernel), hsent [0x60] _ rfl,
    hagain [0x60] _ (by decide +kernel)⟩
  rw [hcourse]
  exact hsequence

end CardReader.Osdp.Framer
