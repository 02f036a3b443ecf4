import CardReader.Osdp.Device
import CardReader.Proofs.Bytes.Cursor
import CardReader.Proofs.Failures
import Mathlib.Logic.Function.Iterate

namespace CardReader

open Run Act

variable {σ δ α : Type}

/-- The refusal of a command by an OSDP device. -/
def FrameError.isNak : FrameError → Bool
  | .status (.osdpNak _) => true
  | _ => false

/-- An exchange that an OSDP device refused. -/
def ReaderError.isNak : ReaderError → Bool
  | .frame cause => cause.isNak
  | _ => false

namespace Osdp

theorem checkTrailer_error {body trailer : Bytes} {e : FrameError}
    (h : checkTrailer body trailer = .error e) :
    ∃ expected received, e = .checksumMismatch expected received := by
  unfold checkTrailer at h
  split at h
  · dsimp only at h
    split at h
    · exact ⟨_, _, (Except.error.inj h).symm⟩
    · contradiction
  · dsimp only at h
    split at h
    · exact ⟨_, _, (Except.error.inj h).symm⟩
    · contradiction

section OpenReply

variable {E : FrameError → Prop} (hshort : ∀ expected actual, E (.tooShort expected actual))
include hshort

theorem readTail_fails (control : UInt8) : Fails E (readTail control) := by
  have hdata : Fails E Cursor.remainder := by
    intro c e c' hrun
    contradiction
  have hcode : Fails E (do
      let code ← Cursor.byte
      return (code, ← Cursor.remainder) : Cursor.Read (UInt8 × Bytes)) :=
    Fails.bind (Cursor.byte_fails hshort) fun code => Fails.bind hdata fun data => Fails.pure _
  unfold readTail
  refine Fails.ite ?_ hcode
  refine Fails.bind (Cursor.byte_fails hshort) fun length => ?_
  exact Fails.bind (Cursor.take_fails hshort _) fun _ => hcode

theorem readHead_fails (hmarker : ∀ expected actual, E (.badMarker expected actual))
    (hlength : ∀ declared actual, E (.lengthMismatch declared actual)) (size : Nat) :
    Fails E (readHead size) := by
  unfold readHead
  refine Fails.bind (Cursor.byte_fails hshort) fun marker => ?_
  refine Fails.guarded (hmarker _ _) ?_
  refine Fails.bind (Cursor.byte_fails hshort) fun address => ?_
  refine Fails.bind (Cursor.littleEndian_fails hshort) fun declared => ?_
  refine Fails.guarded (hlength _ _) ?_
  exact Fails.bind (Cursor.byte_fails hshort) fun control => Fails.pure _

/-- Marker and declared length are looked at in the head of a reply and nowhere else. -/
theorem openReply_of_head (hcheck : ∀ expected received, E (.checksumMismatch expected received))
    (hcause : ∀ cause, E (.unexpectedAnswer cause)) {own : UInt8} {frame : Bytes} {e : FrameError}
    (hhead : ∀ e, Cursor.run (readHead frame.length) frame = .error e → E e)
    (h : openReply own frame = .error e) : E e := by
  unfold openReply at h
  cases hopened : Cursor.run (readHead frame.length) frame with
  | error e' =>
    rw [hopened] at h
    rw [← Except.error.inj h]
    exact hhead e' hopened
  | ok front =>
    obtain ⟨address, control⟩ := front
    rw [hopened, ok_bind] at h
    dsimp only at h
    obtain rfl | h := guarded_error h
    · exact hshort _ _
    generalize hchecked : checkTrailer _ _ = checked at h
    cases checked with
    | error e' =>
      obtain ⟨expected, received, hmismatch⟩ := checkTrailer_error hchecked
      rw [← Except.error.inj h, hmismatch]
      exact hcheck _ _
    | ok checked =>
      rw [ok_bind] at h
      obtain rfl | h := guarded_error h
      · exact hcause _
      generalize hrest : Cursor.run (readTail control) _ = rest at h
      cases rest with
      | error e' =>
        rw [← Except.error.inj h]
        exact Cursor.run_fails (readTail_fails hshort control) hrest
      | ok rest => contradiction

end OpenReply

/-- A reply that cannot be opened is no refusal, but a frame that is not in order. -/
theorem openReply_error {own : UInt8} {frame : Bytes} {e : FrameError}
    (h : openReply own frame = .error e) : e.isNak = false ∧ e.kind = .framing := by
  have hhead : Fails (fun e => FrameError.isNak e = false ∧ e.kind = .framing)
      (readHead frame.length) :=
    readHead_fails (fun _ _ => ⟨rfl, rfl⟩) (fun _ _ => ⟨rfl, rfl⟩) (fun _ _ => ⟨rfl, rfl⟩) _
  exact openReply_of_head (fun _ _ => ⟨rfl, rfl⟩) (fun _ _ => ⟨rfl, rfl⟩) (fun _ => ⟨rfl, rfl⟩)
    (fun _ => Cursor.run_fails hhead) h

namespace Framer

def moved (n : Nat) (f : Framer) : Framer := { f with sequence := succ^[n] f.sequence }

theorem encode_kept (command : Bytes) : Keeps (fun f g : Framer => g = f) (encode command) := by
  have hC := closed_eq (κ := Framer)
  unfold encode
  refine Keeps.guarded hC _ ?_
  refine Keeps.guarded hC _ ?_
  exact Keeps.bind hC (Keeps.get hC) fun f => Keeps.pure hC _

theorem encode_fails (command : Bytes) : Fails (fun e => FrameError.isNak e = false)
    (encode command) := by
  unfold encode
  refine Fails.guarded ?_ (Fails.guarded ?_ ?_)
  · rfl
  · rfl
  · exact Fails.bind Fails.get fun f => Fails.pure _

/-- What becomes of a frame: a reply with the right sequence number counts, also as a refusal. -/
theorem decode_run (frame : Bytes) (f : Framer) : decode frame f =
    match openReply f.address frame with
    | .error e => .error e f
    | .ok reply =>
      if reply.sequence ≠ f.sequence then
        .error (.unexpectedAnswer (.sequence reply.sequence f.sequence)) f
      else if reply.code = nakReply then
        .error (.status (.osdpNak (reply.data.headD 0))) (f.moved 1)
      else .ok ⟨reply.data, reply.code⟩ (f.moved 1) := by
  unfold decode
  rw [get_bind_run]
  cases openReply f.address frame with
  | error e => rfl
  | ok reply =>
    dsimp only
    change (if reply.sequence ≠ f.sequence then
      (throw (.unexpectedAnswer (.sequence reply.sequence f.sequence)) : Coding Framer PUnit) >>=
        fun _ => _ else _ : Coding Framer Answer) f = _
    by_cases hsequence : reply.sequence ≠ f.sequence
    · rw [if_pos hsequence, if_pos hsequence, throw_bind_run]
    · rw [if_neg hsequence, if_neg hsequence]
      by_cases hcode : reply.code = nakReply
      · rw [if_pos hcode, if_pos hcode]
        rfl
      · rw [if_neg hcode, if_neg hcode]
        rfl

/-- Of the answers that fail, the refusals alone are counted. -/
theorem decode_error {frame : Bytes} {f g : Framer} {e : FrameError}
    (h : decode frame f = .error e g) : g = if e.isNak then f.moved 1 else f := by
  rw [decode_run] at h
  cases hopened : openReply f.address frame with
  | error e' =>
    rw [hopened] at h
    injection h with he hg
    rw [← he, ← hg, (openReply_error hopened).1]
    rfl
  | ok reply =>
    rw [hopened] at h
    dsimp only at h
    split_ifs at h with hsequence hcode
    · injection h with he hg
      rw [← he, ← hg]
      rfl
    · injection h with he hg
      rw [← he, ← hg]
      rfl

end Framer

namespace Device

def moved (n : Nat) (d : Device) : Device := { d with framer := d.framer.moved n }

/-- A failure leaves the driver as it was, unless it is a refusal. -/
def Counts (act : Act σ Device α) : Prop :=
  ∀ b e b', act b = .error e b' → b'.driver = if e.isNak then b.driver.moved 1 else b.driver

theorem Counts.of_kept {act : Act σ Device α} (hkept : KeepsDriver (fun d d' => d' = d) act)
    (hfails : Fails (fun e => ReaderError.isNak e = false) act) : Counts act := by
  intro b e b' hrun
  rw [hfails b e b' hrun]
  exact hkept.of_error hrun

theorem Counts.bind {β : Type} {act : Act σ Device α} {next : α → Act σ Device β}
    (hkept : KeepsDriver (fun d d' => d' = d) act)
    (hfails : Fails (fun e => ReaderError.isNak e = false) act) (hnext : ∀ a, Counts (next a)) :
    Counts (act >>= next) := by
  intro b e b' hrun
  cases hact : act b with
  | error e' c =>
    rw [bind_error hact] at hrun
    injection hrun with he hc
    rw [← he, ← hc]
    exact Counts.of_kept hkept hfails b e' c hact
  | ok a c =>
    rw [bind_ok hact] at hrun
    have hcount := hnext a c e b' hrun
    have hdriver : c.driver = b.driver := hkept.of_ok hact
    rw [hdriver] at hcount
    exact hcount

theorem encode_kept (command : Bytes) :
    Keeps (fun d d' : Device => d' = d) (Codec.encode command) := by
  intro d
  have hrun := Coding.after_onPart framer (fun f d => { d with framer := f })
    (Framer.encode command) d
  rw [Framer.encode_kept command d.framer] at hrun
  exact hrun

theorem encode_fails (command : Bytes) :
    Fails (fun e => FrameError.isNak e = false) (Codec.encode command : Coding Device Bytes) :=
  Coding.onPart_fails framer (fun f d => { d with framer := f }) (Framer.encode_fails command)

/-- A reply is counted when it is opened, so a refusal that came in a sound frame is counted. -/
theorem decode_counts (frame : Bytes) :
    Counts (ofCoding (Codec.decode frame) : Act σ Device Answer) := by
  intro b e b' hrun
  change ofCoding (Coding.onPart framer (fun f d => { d with framer := f })
    (Framer.decode frame)) b = .error e b' at hrun
  unfold ofCoding Coding.onPart at hrun
  cases hopened : Framer.decode frame b.driver.framer with
  | ok answer f =>
    rw [hopened] at hrun
    contradiction
  | error cause f =>
    rw [hopened] at hrun
    injection hrun with he hb
    rw [← he, ← hb]
    dsimp only
    rw [Framer.decode_error hopened]
    change _ = if cause.isNak then _ else _
    by_cases hnak : cause.isNak
    · rw [if_pos hnak, if_pos hnak]
      rfl
    · rw [if_neg hnak, if_neg hnak]

variable [Link σ]

/-- Of the failures of an exchange only the refusal by the device moves the number on. -/
theorem send_counts (command : Bytes) : Counts (Channel.send command : Act σ Device Answer) := by
  have hblind : Blind fun b b' : Bench σ Device => b'.driver = b.driver :=
    blind_driver (R := fun d d' => d' = d) closed_eq
  have hC := hblind.toClosed
  have hget : KeepsDriver (fun d d' => d' = d) (get : Act σ Device (Bench σ Device)) :=
    Keeps.get hC
  have hlink : ∀ cause, (ReaderError.link cause).isNak = false := fun _ => rfl
  have htransmit : KeepsDriver (fun d d' => d' = d)
      (Channel.transmit command : Act σ Device Unit) := by
    intro b
    rw [(Channel.transmit_after command b).1]
    exact encode_kept command b.driver
  unfold Channel.send
  refine Counts.bind hget Fails.get fun b => ?_
  unfold Channel.sendWithin
  refine Counts.bind hget Fails.get fun b => ?_
  split
  · intro b e b' hrun
    rw [throw_bind_run] at hrun
    injection hrun with he hb
    rw [← he, ← hb]
    rfl
  refine Counts.bind (hblind.onChannel _) (Fails.change _) fun _ => ?_
  refine Counts.bind htransmit (Channel.transmit_fails hlink (encode_fails command)) fun _ => ?_
  refine Counts.bind hget Fails.get fun b => ?_
  refine Counts.bind hC.refl now_fails fun time => ?_
  refine Counts.bind (hblind.receptive.receiveFrame _ _)
    (Channel.receiveFrame_fails hlink (fun _ => rfl) (fun _ => rfl) _ _) fun frame => ?_
  exact Counts.bind (hblind.onChannel _) (Fails.change _) fun _ => decode_counts frame

/-- Whatever device answers a poll is taken for a reader, unless it refuses. -/
theorem probe_run (b : Bench σ Device) : (Driver.probe : Act σ Device Bool) b =
    match (Channel.send [pollCommand] : Act σ Device Answer) b with
    | .ok _ c => .ok true c
    | .error e c => .error e c := by
  change ((Channel.send [pollCommand] : Act σ Device Answer) >>= fun _ => get >>= fun _ =>
    pure true) b = _
  cases hsend : (Channel.send [pollCommand] : Act σ Device Answer) b with
  | ok answer c =>
    rw [bind_ok hsend]
    rfl
  | error e c => rw [bind_error hsend]

theorem probe_rejected (b : Bench σ Device)
    (h : ∀ c, (Driver.probe : Act σ Device Bool) b ≠ .ok true c) :
    ∃ e c, (Driver.probe : Act σ Device Bool) b = .error e c ∧
      c.driver = if e.isNak then b.driver.moved 1 else b.driver := by
  have hrun := probe_run b
  cases hsend : (Channel.send [pollCommand] : Act σ Device Answer) b with
  | ok answer c =>
    rw [hsend] at hrun
    exact absurd hrun (h c)
  | error e c =>
    rw [hsend] at hrun
    exact ⟨e, c, hrun, send_counts [pollCommand] b e c hsend⟩

end Device

end Osdp

end CardReader
