import CardReader.Proofs.Bytes.Flip
import CardReader.Proofs.Frame.Parity
import CardReader.Proofs.Stid.Authenticity

namespace CardReader

namespace Bytes

theorem bigEndian_word (hi lo : UInt8) : bigEndian (word hi lo) = [hi, lo] := by
  rw [bigEndian, high_word, low_word]

theorem bigEndian_injective : Function.Injective bigEndian := by
  intro v w h
  obtain ⟨hhigh, hlow⟩ := List.cons.inj h
  rw [← word_high_low v, ← word_high_low w, hhigh, (List.cons.inj hlow).1]

end Bytes

namespace Stid

open Run

variable {frame : Bytes} {i : Nat}

/-- A frame of the size that it declares ends with its check. -/
theorem frame_split (hmarked : frame.head? = some stx) (hsize : frame.length = declared frame + 7) :
    frame = stx :: (covered frame ++ Bytes.bigEndian (carried frame)) := by
  obtain ⟨rest, rfl⟩ := List.head?_eq_some_iff.mp hmarked
  obtain ⟨front, lo, rfl, hfront⟩ := exists_concat (Nat.succ.inj hsize)
  obtain ⟨body, hi, rfl, hbody⟩ := exists_concat hfront
  have hcovered : covered (stx :: (body ++ [hi] ++ [lo])) = body := by
    rw [covered, Nat.add_comm 4, ← hbody, List.append_assoc]
    exact List.take_left
  have hcarried : carried (stx :: (body ++ [hi] ++ [lo])) = Bytes.word hi lo := by
    rw [carried, Nat.add_comm 5, Nat.add_comm 6, ← Nat.add_assoc _ 4 1, ← Nat.add_assoc _ 4 2,
      ← hbody]
    simp [List.getD_eq_getElem?_getD]
  rw [hcovered, hcarried, Bytes.bigEndian_word]
  simp

theorem Whole.sealed (h : Whole frame) (hsize : frame.length = declared frame + 7) :
    ∃ body, frame = stx :: (body ++ Bytes.bigEndian (Checksum.crc Checksum.seedStid body)) := by
  have hsplit := frame_split h.marked hsize
  rw [← h.check_eq] at hsplit
  exact ⟨covered frame, hsplit⟩

/-- Only the two bytes of the size decide the size. -/
theorem declared_flip (hlong : 3 ≤ frame.length) (hhigh : i ≠ 1) (hlow : i ≠ 2) (k : Fin 8) :
    declared (Bytes.flip i k frame) = declared frame := by
  rw [declared, declared, Bytes.getD_flip (by omega), Bytes.getD_flip (by omega), if_neg hhigh,
    if_neg hlow]

theorem Whole.flip (h : Whole frame) (hsize : frame.length = declared frame + 7)
    (hi : i < frame.length) (hhigh : i ≠ 1) (hlow : i ≠ 2) (k : Fin 8) :
    ¬Whole (Bytes.flip i k frame) := by
  intro hflip
  have hsize' : (Bytes.flip i k frame).length = declared (Bytes.flip i k frame) + 7 := by
    rw [Bytes.length_flip, declared_flip (by omega) hhigh hlow, hsize]
  obtain ⟨body', hbody'⟩ := hflip.sealed hsize'
  obtain ⟨body, rfl⟩ := h.sealed hsize
  cases i with
  | zero => exact Bytes.xor_bit_ne stx k (List.cons.inj hbody').1
  | succ i =>
    exact Checksum.sealed_flip_ne Bytes.bigEndian_injective (fun _ => rfl) _
      (Nat.lt_of_succ_lt_succ hi) k body' (List.cons.inj hbody').2

namespace Framer

variable {f : Framer}

/-- The frame is taken for an answer: one of success, or the failure that the device reports. -/
def Answers (f : Framer) (frame : Bytes) : Prop :=
  (∃ answer g, decode frame f = .ok answer g) ∨
    ∃ reported g, decode frame f = .error (.status reported) g

theorem decode_of_refused {e : FrameError} (h : f.deframe frame = .error e) :
    decode frame f = .error e f := by
  rw [decode, get_bind_run, h]
  rfl

theorem Answers.whole (h : f.Answers frame) : Whole frame := by
  cases hd : f.deframe frame with
  | ok message => exact (deframe_whole hd).1
  | error e =>
    have hrun := decode_of_refused hd
    obtain ⟨answer, g, hok⟩ | ⟨reported, g, hstatus⟩ := h
    · rw [hrun] at hok
      contradiction
    · rw [hrun] at hstatus
      exact absurd (EStateM.Result.error.inj hstatus).1 (deframe_error hd reported)

/-- Whatever is wrong with a frame as such is a failure of framing. -/
theorem deframe_kind {e : FrameError} (h : f.deframe frame = .error e) : e.kind = .framing := by
  obtain ⟨_, _, rfl⟩ | ⟨_, rfl, _⟩ | ⟨_, _, rfl, _⟩ | ⟨_, rfl⟩ | ⟨_, _, rfl⟩ :=
    deframe_refused h <;> rfl

/-- A bit of an answer that is turned over is noticed unless it belongs to the size: the host, in
the state in which it would have taken the frame for an answer, refuses it as such and stays as it
was. -/
theorem decode_flip_refused (h : f.Answers frame) (hsize : frame.length = declared frame + 7)
    (hi : i < frame.length) (hhigh : i ≠ 1) (hlow : i ≠ 2) (k : Fin 8) :
    ∃ e, decode (Bytes.flip i k frame) f = .error e f ∧ e.kind = .framing := by
  cases hflip : f.deframe (Bytes.flip i k frame) with
  | error e => exact ⟨e, decode_of_refused hflip, deframe_kind hflip⟩
  | ok message =>
    have hwhole := h.whole.flip hsize hi hhigh hlow k
    exact absurd (deframe_whole hflip).1 hwhole

/-- A host without a session that has asked for the state of the reader. -/
def asking : Framer := { lastCode := 0x0008 }

/-- The reader does not talk to such a host. -/
def denied : Bytes :=
  [0x02, 0x00, 0x06, 0x00, 0x00, 0x00, 0x08, 0x00, 0x00, 0x00, 0x11, 0xBB, 0x8C]

theorem answers_denied : asking.Answers denied := by
  have hframe : asking.deframe denied = .ok [0x00, 0x08, 0x00, 0x00, 0x00, 0x11] := by
    decide +kernel
  have hrun : decode denied asking = .error (.status (.stid .modeNotAllowed)) asking :=
    (decode_of_deframe hframe).trans rfl
  exact .inr ⟨_, _, hrun⟩

/-- A bit of the line address, which nobody looks at on a line without addresses. -/
theorem decode_flip_refused_unaddressed :
    asking.Answers denied ∧ denied.length = declared denied + 7 ∧
      Bytes.flip 3 5 denied =
        [0x02, 0x00, 0x06, 0x20, 0x00, 0x00, 0x08, 0x00, 0x00, 0x00, 0x11, 0xBB, 0x8C] ∧
      ∃ e, decode (Bytes.flip 3 5 denied) asking = .error e asking ∧ e.kind = .framing :=
  ⟨answers_denied, rfl, rfl,
    decode_flip_refused answers_denied rfl (by decide) (by decide) (by decide) 5⟩

end Framer

end Stid

end CardReader
