import CardReader.Proofs.Access.Csn
import CardReader.Proofs.Access.Cut
import CardReader.Proofs.Access.Payloads

namespace CardReader.Access

variable {ε κ α : Type}

/-- Written out by position, `x` does what `y` does, and it never reaches outside. -/
def Safe (x : Try ε α) (y : Except ε α) : Prop := x = lift y ∧ x ≠ .error .outside

/-- Written out by position, `x` does what `y` does, and from no state it ever reaches outside. -/
def SafeRun (x : EStateM (Stop ε) κ α) (y : EStateM ε κ α) : Prop :=
  x = lifted y ∧ ∀ s t, x s ≠ .error .outside t

theorem safe_of_eq {x : Try ε α} {y : Except ε α} (h : x = lift y) : Safe x y :=
  ⟨h, h ▸ lift_inside y⟩

theorem safeRun_of_eq {x : EStateM (Stop ε) κ α} {y : EStateM ε κ α} (h : x = lifted y) :
    SafeRun x y :=
  ⟨h, h ▸ lifted_inside y⟩

/-- No bytes reach outside of a byte string: not in the search for a frame, whatever the buffer
holds and may hold, not in the opening of a frame, in any state of the codec, not in the payloads of
answers, and not in the serial number of a card, wherever it is configured to stand. -/
theorem never_outside :
    -- The search for frames.
    (∀ (family : Family) (data : Bytes),
      Safe (headCut family data : Try Empty Cut) (.ok (Cut.ofHead family data))) ∧
    (∀ (family : Family) (data : Bytes),
      Safe (announced family data : Try Empty (Option Nat)) (.ok (Cut.announced? family data))) ∧
    (∀ (b : FrameBuffer) (received : Bytes),
      Safe (store b received : Try Empty FrameBuffer) (.ok (b.extend received))) ∧
    (∀ (family : Family) (b : FrameBuffer),
      Safe (nextFrame family b : Try Empty (Option Bytes × FrameBuffer)) (.ok (b.next family))) ∧
    -- The codecs.
    (∀ frame : Bytes, Safe (openRpleth frame) (Rpleth.openFrame frame)) ∧
    (∀ frame : Bytes, SafeRun (κ := Rpleth.Framer) (decodeRpleth frame) (Codec.decode frame)) ∧
    (∀ frame : Bytes, SafeRun (κ := Stid.Framer) (decodeStid frame) (Codec.decode frame)) ∧
    (∀ (own : UInt8) (frame : Bytes), Safe (openOsdp own frame) (Osdp.openReply own frame)) ∧
    (∀ frame : Bytes, SafeRun (κ := Osdp.Framer) (decodeOsdp frame) (Codec.decode frame)) ∧
    (∀ frame : Bytes, SafeRun (decodeAxess frame) (Codec.decode frame)) ∧
    (∀ frame : Bytes, SafeRun (decodeProx frame) (Codec.decode frame)) ∧
    (∀ frame : Bytes, SafeRun (decodePromag frame) (Codec.decode frame)) ∧
    -- The payloads.
    (∀ data : Bytes, Safe (readInformation data) (Stid.Information.ofPayload data)) ∧
    (∀ data : Bytes, Safe (readTamper data) (Stid.TamperSwitch.ofPayload data)) ∧
    (∀ data : Bytes, Safe (readScanA data) (Stid.Scan.typeA data)) ∧
    (∀ data : Bytes, Safe (readScanB data) (Stid.Scan.typeB data)) ∧
    (∀ (h : Stid.HmacHandshake) (reply : Bytes), Safe (readNonces h reply) (h.finish reply)) ∧
    (∀ data : Bytes, Safe (readIdentity data) (Osdp.Identity.ofPayload data)) ∧
    (∀ reply : Answer, Safe (readReport reply) (Osdp.Device.report reply)) ∧
    (∀ (frame : Bytes) (length offset : UInt32),
      Safe (readCsn frame length offset : Try Empty (Option Bytes))
        (.ok (Rpleth.Csn.extract frame length offset))) := by
  refine ⟨?_, ?_, ?_, ?_, ?_, ?_, ?_, ?_, ?_, ?_, ?_, ?_, ?_, ?_, ?_, ?_, ?_, ?_, ?_, ?_⟩
  · exact fun family data => safe_of_eq (headCut_eq family data)
  · exact fun family data => safe_of_eq (announced_eq family data)
  · exact fun b received => safe_of_eq (store_eq b received)
  · exact fun family b => safe_of_eq (nextFrame_eq family b)
  · exact fun frame => safe_of_eq (openRpleth_eq frame)
  · exact fun frame => safeRun_of_eq (decodeRpleth_eq frame)
  · exact fun frame => safeRun_of_eq (decodeStid_eq frame)
  · exact fun own frame => safe_of_eq (openOsdp_eq own frame)
  · exact fun frame => safeRun_of_eq (decodeOsdp_eq frame)
  · exact fun frame => safeRun_of_eq (decodeAxess_eq frame)
  · exact fun frame => safeRun_of_eq (decodeProx_eq frame)
  · exact fun frame => safeRun_of_eq (decodePromag_eq frame)
  · exact fun data => safe_of_eq (readInformation_eq data)
  · exact fun data => safe_of_eq (readTamper_eq data)
  · exact fun data => safe_of_eq (readScanA_eq data)
  · exact fun data => safe_of_eq (readScanB_eq data)
  · exact fun h reply => safe_of_eq (readNonces_eq h reply)
  · exact fun data => safe_of_eq (readIdentity_eq data)
  · exact fun reply => safe_of_eq (readReport_eq reply)
  · exact fun frame length offset => safe_of_eq (readCsn_eq frame length offset)

end CardReader.Access
