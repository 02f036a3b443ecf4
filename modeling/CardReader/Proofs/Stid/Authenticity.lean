import CardReader.Proofs.Stid.Answer

namespace CardReader.Stid

open Run

/-- Length that the header of a frame declares for its message. -/
def declared (frame : Bytes) : Nat := (Bytes.word (frame.getD 1 0) (frame.getD 2 0)).toNat

def messageOf (frame : Bytes) : Bytes := (frame.drop 5).take (declared frame)

/-- What the two-byte check of a frame covers: everything from the marker to the check. -/
def covered (frame : Bytes) : Bytes := (frame.drop 1).take (4 + declared frame)

/-- The two-byte check that a frame carries after its message. -/
def carried (frame : Bytes) : UInt16 :=
  Bytes.word (frame.getD (5 + declared frame) 0) (frame.getD (6 + declared frame) 0)

/-- All the bytes of a frame behind its marker, with a valid check. -/
structure Whole (frame : Bytes) : Prop where
  marked : frame.head? = some stx
  length_le : declared frame + 7 ≤ frame.length
  check_eq : Checksum.crc 0xFFFF (covered frame) = carried frame

namespace Framer

/-- A whole frame in the mode of a host, with a valid check. -/
structure Sound (f : Framer) (frame : Bytes) : Prop where
  length_le : declared frame + 7 ≤ frame.length
  mode_eq : frame[4]? = some f.mode.bits
  check_eq : Checksum.crc 0xFFFF (covered frame) = carried frame

/-- A sound frame that ends with the signature of its message under the key of the session. -/
structure Authentic (f : Framer) (hmacKey : Bytes) (frame : Bytes) : Prop
    extends Sound f frame where
  held : f.keys.hmac = some hmacKey
  signed : ∃ body, messageOf frame = body ++ (Sha1.mac hmacKey body).take 10

/-- What is taken for a frame, in whatever mode, starts with the marker, is there as a whole, and
has a valid check; only in the reserved mode may its mode be another one. -/
theorem deframe_whole {f : Framer} {frame message : Bytes} (h : f.deframe frame = .ok message) :
    Whole frame ∧ (¬ f.mode.isReserved → frame[4]? = some f.mode.bits) ∧
      message = messageOf frame := by
  unfold deframe at h
  split at h
  · rename_i marker hi lo control mode rest
    obtain ⟨-, h⟩ := guarded_ok h
    obtain ⟨hmarker, h⟩ := guarded_ok h
    obtain ⟨hlength, h⟩ := guarded_ok h
    obtain ⟨-, h⟩ := guarded_ok h
    obtain ⟨-, h⟩ := guarded_ok h
    obtain ⟨hmode, h⟩ := guarded_ok h
    obtain ⟨hcheck, h⟩ := guarded_ok h
    have hsize : declared (marker :: hi :: lo :: control :: mode :: rest) =
        (Bytes.word hi lo).toNat := rfl
    have hcovered : covered (marker :: hi :: lo :: control :: mode :: rest) =
        hi :: lo :: control :: mode :: rest.take (Bytes.word hi lo).toNat := by
      rw [covered, hsize, Nat.add_comm 4]
      rfl
    have hcarried : carried (marker :: hi :: lo :: control :: mode :: rest) =
        Bytes.word (rest.getD (Bytes.word hi lo).toNat 0)
          (rest.getD ((Bytes.word hi lo).toNat + 1) 0) := by
      rw [carried, hsize, Nat.add_comm 5, Nat.add_comm 6]
      rfl
    refine ⟨⟨?_, ?_, ?_⟩, ?_, (Except.ok.inj h).symm⟩
    · rw [not_not.mp hmarker]
      rfl
    · rw [hsize]
      exact Nat.le_of_not_lt hlength
    · rw [hcovered, hcarried]
      exact Decidable.of_not_not hcheck
    · intro hr
      have heq : mode = f.mode.bits := by
        by_contra hne
        exact hmode ⟨hr, hne⟩
      rw [heq]
      rfl
  · contradiction

theorem deframe_ok {f : Framer} {frame message : Bytes} (hr : ¬ f.mode.isReserved)
    (h : f.deframe frame = .ok message) : f.Sound frame ∧ message = messageOf frame := by
  obtain ⟨hwhole, hmode, hmessage⟩ := deframe_whole h
  exact ⟨⟨hwhole.length_le, hmode hr, hwhole.check_eq⟩, hmessage⟩

/-- How a frame is refused before its message is looked at; the marker and the declared size are
only blamed when they are wrong. -/
theorem deframe_refused {f : Framer} {frame : Bytes} {e : FrameError}
    (h : f.deframe frame = .error e) :
    (∃ expected actual, e = .tooShort expected actual) ∨
      (∃ actual, e = .badMarker stx actual ∧ frame.head? ≠ some stx) ∨
      (∃ size actual, e = .lengthMismatch size actual ∧ frame.length < declared frame + 7) ∨
      (∃ cause, e = .unexpectedAnswer cause) ∨
      ∃ expected received, e = .checksumMismatch expected received := by
  unfold deframe at h
  split at h
  · rename_i marker hi lo control mode rest
    obtain rfl | h := guarded_error h
    · exact .inl ⟨_, _, rfl⟩
    obtain ⟨hmarker, rfl⟩ | ⟨-, h⟩ := guarded_failed h
    · exact .inr (.inl ⟨marker, rfl, fun hs => hmarker (Option.some.inj hs)⟩)
    obtain ⟨hsize, rfl⟩ | ⟨-, h⟩ := guarded_failed h
    · exact .inr (.inr (.inl ⟨_, _, rfl, hsize⟩))
    obtain rfl | h := guarded_error h
    · exact .inr (.inr (.inr (.inl ⟨_, rfl⟩)))
    obtain rfl | h := guarded_error h
    · exact .inr (.inr (.inr (.inl ⟨_, rfl⟩)))
    obtain rfl | h := guarded_error h
    · exact .inr (.inr (.inr (.inl ⟨_, rfl⟩)))
    obtain rfl | h := guarded_error h
    · exact .inr (.inr (.inr (.inr ⟨_, _, rfl⟩)))
    · contradiction
  · exact .inl ⟨_, _, (Except.error.inj h).symm⟩

theorem deframe_error {f : Framer} {frame : Bytes} {e : FrameError}
    (h : f.deframe frame = .error e) (reported : DeviceStatus) : e ≠ .status reported := by
  obtain ⟨_, _, rfl⟩ | ⟨_, rfl, _⟩ | ⟨_, _, rfl, _⟩ | ⟨_, rfl⟩ | ⟨_, _, rfl⟩ :=
    deframe_refused h <;> exact FrameError.noConfusion

theorem verify_ok {key message signature : Bytes} (h : verify key message signature = true) :
    signature = (Sha1.mac key message).take signature.length := by
  simp only [verify, Bool.and_eq_true, beq_iff_eq] at h
  exact h.2.symm

/-- A message ends with the signature of what comes before, or it is refused by an error of the
host's own. -/
theorem checkSignature_cases (f : Framer) (message : Bytes) :
    (∃ hmacKey body, f.keys.hmac = some hmacKey ∧
      message = body ++ (Sha1.mac hmacKey body).take 10 ∧
      checkSignature message f = .ok body f) ∨
    (∃ e, (∀ reported, e ≠ .status reported) ∧ checkSignature message f = .error e f) := by
  by_cases hl : message.length < signatureLength
  · refine .inr ⟨.tooShort signatureLength message.length, fun _ => FrameError.noConfusion, ?_⟩
    rw [checkSignature, if_pos hl]
    rfl
  cases hk : f.keys.hmac with
  | none =>
    refine .inr ⟨.session (.missing .hmacKey), fun _ => FrameError.noConfusion, ?_⟩
    simp only [checkSignature, if_neg hl, get_bind_run, Keys.hmacKey, hk]
    rfl
  | some hmacKey =>
    have hkey := Keys.hmacKey_eq hk
    by_cases hv : verify hmacKey (message.take (message.length - signatureLength))
        (message.drop (message.length - signatureLength))
    · refine .inl ⟨hmacKey, message.take (message.length - signatureLength), rfl, ?_, ?_⟩
      · have hsignature := verify_ok hv
        have hten : (message.drop (message.length - signatureLength)).length = 10 := by
          rw [List.length_drop, signatureLength] at *
          omega
        rw [hten] at hsignature
        rw [← hsignature, List.take_append_drop]
      · simp [checkSignature, hl, hkey, ofSession, hv]
    · refine .inr ⟨.signatureMismatch, fun _ => FrameError.noConfusion, ?_⟩
      simp only [checkSignature, if_neg hl, get_bind_run, hkey, ofSession, pure_bind_run, if_pos hv]
      rfl

/-- A frame gets through to a host: as an answer, as a status of the device, or as a change of
anything that the host holds. -/
def Heeds (f : Framer) (frame : Bytes) : Prop :=
  (∃ answer g, decode frame f = .ok answer g) ∨
    (∃ reported g, decode frame f = .error (.status reported) g) ∨ after (decode frame f) ≠ f

theorem not_heeds_of_error {f : Framer} {frame : Bytes} {e : FrameError}
    (he : ∀ reported, e ≠ .status reported) (h : decode frame f = .error e f) :
    ¬ f.Heeds frame := by
  rintro (⟨answer, g, hok⟩ | ⟨reported, g, hstatus⟩ | hmoved)
  · rw [h] at hok
    contradiction
  · rw [h] at hstatus
    exact he reported (EStateM.Result.error.inj hstatus).1
  · rw [h] at hmoved
    exact hmoved rfl

theorem decode_of_deframe {f : Framer} {frame message : Bytes}
    (h : f.deframe frame = .ok message) : decode frame f = unprotect f.mode message f := by
  rw [decode, get_bind_run, h]
  rfl

/-- In signed mode only frames that are sound and signed under the key of the session get through,
whatever bytes arrive. -/
theorem authentic_of_heeds {f : Framer} (hs : f.mode.isSigned) (hr : ¬ f.mode.isReserved)
    {frame : Bytes} (h : f.Heeds frame) : ∃ hmacKey, f.Authentic hmacKey frame := by
  cases hd : f.deframe frame with
  | error e =>
    have hrun : decode frame f = .error e f := by
      rw [decode, get_bind_run, hd]
      rfl
    exact absurd h (not_heeds_of_error (deframe_error hd) hrun)
  | ok message =>
    have hrun := decode_of_deframe hd
    obtain ⟨hsound, rfl⟩ := deframe_ok hr hd
    obtain ⟨hmacKey, body, hheld, hsigned, -⟩ | ⟨e, he, hcheck⟩ :=
      checkSignature_cases f (messageOf frame)
    · exact ⟨hmacKey, hsound, hheld, body, hsigned⟩
    · rw [unprotect_eq, if_pos hs, bind_error hcheck] at hrun
      exact absurd h (not_heeds_of_error he hrun)

/-- A frame of a reader that holds the keys of `guarded`. -/
def welcome : Bytes :=
  Peer.frame guarded (Peer.protect guarded [0x0A, 0x0B] .zero .zero
    (Peer.answer .reader 0x0008 [0x2A, 0x05] 0))

theorem heeds_welcome : guarded.Heeds welcome := by
  have hd : guarded.deframe welcome = .ok (Peer.protect guarded [0x0A, 0x0B] .zero .zero
      (Peer.answer .reader 0x0008 [0x2A, 0x05] 0)) :=
    Peer.deframe_frame guarded _ (by rw [Peer.length_protect]; decide) armed_guarded.address_le
  have hopen := unprotect_protect armed_guarded .zero [0x2A, 0x05] 0 (by decide)
  exact .inl ⟨_, _, (decode_of_deframe hd).trans hopen⟩

theorem authentic_of_heeds_welcome :
    guarded.mode.isSigned ∧ ¬ guarded.mode.isReserved ∧ guarded.Heeds welcome ∧
      ∃ hmacKey, guarded.Authentic hmacKey welcome := by
  have hs : guarded.mode.isSigned := by decide
  have hr : ¬ guarded.mode.isReserved := by decide
  exact ⟨hs, hr, heeds_welcome, authentic_of_heeds hs hr heeds_welcome⟩

end Framer

end CardReader.Stid
