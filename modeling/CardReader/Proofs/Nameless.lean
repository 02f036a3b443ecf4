import CardReader.AnyDevice
import CardReader.Config.Validation
import CardReader.Link.Scripted
import CardReader.Proofs.Identifier
import CardReader.Proofs.Osdp.Busy
import CardReader.Proofs.Osdp.Peer
import CardReader.Proofs.Rpleth.Field
import CardReader.Proofs.Stid.Scan

namespace CardReader

open Run Act

variable {σ : Type}

namespace Stid

variable {chip : Chip}

theorem Scan.card_named {cardType : String} {length : Nat} {rest : Bytes}
    (h : Scan.card cardType length rest = .ok (some chip)) : chip.identifier ≠ [] := by
  unfold Scan.card at h
  split_ifs at h with hnone hcut
  · cases h
  · obtain rfl := Option.some.inj (Except.ok.inj h)
    refine List.ne_nil_of_length_pos ?_
    rw [List.length_take]
    omega

theorem Scan.typeA_named {data : Bytes} (h : Scan.typeA data = .ok (some chip)) :
    chip.identifier ≠ [] := by
  unfold Scan.typeA at h
  split at h
  · contradiction
  · split_ifs at h with hfound
    · cases h
    · split at h
      · exact Scan.card_named h
      · contradiction

theorem Scan.typeB_named {data : Bytes} (h : Scan.typeB data = .ok (some chip)) :
    chip.identifier ≠ [] := by
  unfold Scan.typeB at h
  split at h
  · contradiction
  · split_ifs at h with hfound
    · cases h
    · exact Scan.card_named h

namespace Device

variable [Link σ] {b c : Bench σ Device}

theorem scanA_named (h : scanA b = .ok (some chip) c) : chip.identifier ≠ [] := by
  obtain ⟨answer, d, -, hread⟩ := of_bind_ok h
  exact Scan.typeA_named (of_ofExcept_ok hread).1

theorem scanB_named (h : scanB b = .ok (some chip) c) : chip.identifier ≠ [] := by
  obtain ⟨answer, d, -, hread⟩ := of_bind_ok h
  exact Scan.typeB_named (of_ofExcept_ok hread).1

theorem chipInAir_named (h : chipInAir b = .ok (some chip) c) : chip.identifier ≠ [] := by
  rw [chipInAir_scans] at h
  split at h
  · exact scanB_named h
  · exact scanA_named h

end Device

end Stid

namespace Rpleth

/-- A serial number with a length has a byte at least; one without is the whole frame. -/
theorem Csn.extract_named {frame csn : Bytes} {length offset : UInt32} (hframe : frame ≠ [])
    (h : Csn.extract frame length offset = some csn) : csn ≠ [] := by
  unfold Csn.extract at h
  split_ifs at h with hwhole hshort
  · exact Option.some.inj h ▸ hframe
  · have hlength : length.toNat ≠ 0 := fun hzero => hwhole (UInt32.toNat_inj.mp hzero)
    refine List.ne_nil_of_length_pos ?_
    rw [← Option.some.inj h, List.length_reverse, Csn.length_packed_field (by omega)]
    omega

namespace Device

variable [Link σ] {b c : Bench σ Device} {chip : Chip}

theorem badge_some {wait : Nat} {frame : Bytes} (h : badge wait b = .ok (some frame) c) :
    frame ≠ [] := by
  unfold badge at h
  obtain ⟨_, d, -, h⟩ := of_bind_ok h
  obtain ⟨time, e, -, h⟩ := of_bind_ok h
  obtain ⟨received, f, -, h⟩ := of_bind_ok h
  cases received with
  | none => injection h with hnone; exact nomatch hnone
  | some raw =>
    obtain ⟨answer, g, -, h⟩ := of_bind_ok h
    injection h with hanswer
    split_ifs at hanswer with hempty
    rw [← Option.some.inj hanswer]
    exact fun hnil => hempty (List.isEmpty_iff.mpr hnil)

theorem chipInAir_named (h : chipInAir b = .ok (some chip) c) : chip.identifier ≠ [] := by
  unfold chipInAir at h
  rw [get_bind_run] at h
  obtain ⟨found, d, hbadge, h⟩ := of_bind_ok h
  cases found with
  | none => injection h with hnone; exact nomatch hnone
  | some frame =>
    injection h with hchip
    obtain ⟨csn, hcsn, rfl⟩ := Option.map_eq_some_iff.mp hchip
    exact Csn.extract_named (badge_some hbadge) hcsn

end Device

end Rpleth

theorem Axess.Device.card_named {answer : Answer} {chip : Chip}
    (h : Axess.Device.card answer = .ok (some chip)) : chip.identifier ≠ [] := by
  unfold card at h
  split at h
  · cases h
  · rename_i first rest _
    split_ifs at h with hnone
    · cases h
    · cases hnumber : Identifier.ofDecimal (Text.Utf8.lossy (first :: rest)).toList with
      | error e =>
        rw [hnumber, error_bind] at h
        cases h
      | ok identifier =>
        rw [hnumber, ok_bind] at h
        obtain rfl := Option.some.inj (Except.ok.inj h)
        obtain ⟨n, -, -, hshortest⟩ := (Identifier.ofDecimal_ok_iff _ identifier).mp hnumber
        exact hshortest.ne_nil

theorem Axess.Device.chipInAir_named [Link σ] {b c : Bench σ Axess.Device} {chip : Chip}
    (h : Axess.Device.chipInAir b = .ok (some chip) c) : chip.identifier ≠ [] := by
  obtain ⟨answer, hread, -⟩ := Channel.of_asked_ok h
  exact card_named hread

theorem Prox.Device.chipInAir_named [Link σ] {b c : Bench σ Prox.Device} {chip : Chip}
    (h : Prox.Device.chipInAir b = .ok (some chip) c) : chip.identifier ≠ [] := by
  obtain ⟨answer, d, -, hread⟩ := of_bind_ok h
  injection hread with hcard
  unfold card at hcard
  split_ifs at hcard with hempty
  rw [← Option.some.inj hcard]
  exact fun hnil => hempty (List.isEmpty_iff.mpr hnil)

namespace Osdp

/-- A frame that opens as an extended reply which announces a card and ends there. -/
def Nameless (own : UInt8) (frame : Bytes) : Prop :=
  ∃ reply reader, openReply own frame = .ok reply ∧ reply.code = extendedReply ∧
    reply.data = [reader, 0x01]

/-- Where a reply has card data, and what is behind it. -/
theorem Device.of_report_card {reply : Answer} {identifier : Bytes}
    (h : Device.report reply = .ok (.card identifier)) :
    reply.status = rawReply ∧ 4 < reply.data.length ∧ identifier = reply.data.drop 4 ∨
    reply.status = formattedReply ∧ 3 < reply.data.length ∧ identifier = reply.data.drop 3 ∨
    reply.status = extendedReply ∧ ∃ reader, reply.data = reader :: 0x01 :: identifier := by
  unfold Device.report at h
  dsimp only at h
  split_ifs at h with hack hraw hformatted hextended hkind hlocal
  · cases h
  · cases h
    exact .inl ⟨hraw.1, hraw.2, rfl⟩
  · cases h
    exact .inr (.inl ⟨hformatted.1, hformatted.2, rfl⟩)
  · cases h
    obtain ⟨hlength, hsecond⟩ := List.getElem?_eq_some_iff.mp hkind
    refine .inr (.inr ⟨hextended, reply.data[0], ?_⟩)
    rw [← hsecond, ← List.drop_eq_getElem_cons, ← List.drop_eq_getElem_cons, List.drop_zero]
  · cases h
  · cases h

/-- Only the data of an extended reply may end where the identifier would begin. -/
theorem Device.report_nameless {reply : Answer} {identifier : Bytes}
    (h : Device.report reply = .ok (.card identifier)) :
    identifier = [] ↔ reply.status = extendedReply ∧ ∃ reader, reply.data = [reader, 0x01] := by
  obtain ⟨hstatus, hlength, rfl⟩ | ⟨hstatus, hlength, rfl⟩ | ⟨hstatus, reader, hdata⟩ :=
    Device.of_report_card h
  · rw [hstatus, List.drop_eq_nil_iff]
    exact iff_of_false (by omega) fun hother => absurd hother.1 (by decide)
  · rw [hstatus, List.drop_eq_nil_iff]
    exact iff_of_false (by omega) fun hother => absurd hother.1 (by decide)
  · rw [and_iff_right hstatus, hdata]
    simp

theorem Device.chipInAir_nameless [Link σ] {b c : Bench σ Device} {chip : Chip}
    (h : Device.chipInAir b = .ok (some chip) c) :
    chip.identifier = [] ↔ Nameless c.driver.framer.address c.channel.last.answer := by
  obtain ⟨answer, d, hsend, h⟩ := of_bind_ok h
  obtain ⟨report, e, hrun, h⟩ := of_bind_ok h
  obtain ⟨hreport, rfl⟩ := of_ofExcept_ok hrun
  obtain ⟨reply, hopened, rfl⟩ := Device.send_opened hsend
  cases report with
  | nothing => injection h with hnone; exact nomatch hnone
  | tamper on =>
    obtain ⟨_, f, -, h⟩ := of_bind_ok h
    injection h with hnone
    exact nomatch hnone
  | card identifier =>
    injection h with hchip hbench
    obtain rfl := Option.some.inj hchip
    subst hbench
    -- A frame opens as one reply, so that the one that was reported is meant.
    refine (Device.report_nameless hreport).trans ⟨?_, ?_⟩
    · rintro ⟨hcode, reader, hdata⟩
      exact ⟨reply, reader, hopened, hcode, hdata⟩
    · rintro ⟨other, reader, hother, hcode, hdata⟩
      rw [hopened] at hother
      obtain rfl := Except.ok.inj hother
      exact ⟨hcode, reader, hdata⟩

end Osdp

namespace Promag

/-- A line of blanks. -/
def Nameless (frame : Bytes) : Prop :=
  ∃ body, frame = stx :: body ++ [cr] ∧ body ≠ [] ∧
    ∀ c ∈ (Text.Utf8.lossy body).toList, Text.isBlank c

/-- An answer with data came on a line. -/
theorem of_openFrame_ok {frame : Bytes} {answer : Answer} (h : openFrame frame = .ok answer)
    (hdata : answer.data ≠ []) : frame = stx :: answer.data ++ [cr] := by
  unfold openFrame at h
  split at h
  · contradiction
  · rename_i first rest
    split_ifs at h with hbel hesc hstx
    · cases h
      contradiction
    · cases hlast : rest.getLast? with
      | none =>
        rw [hlast] at h
        contradiction
      | some last =>
        rw [hlast] at h
        dsimp only at h
        split_ifs at h with hcr
        cases h
        dsimp only
        rw [← hcr, List.cons_append, List.dropLast_append_getLast? last hlast, not_not.mp hstx]

theorem Device.decode_ok {frame : Bytes} {answer : Answer} {d d' : Device}
    (h : Codec.decode frame d = .ok answer d') : openFrame frame = .ok answer := by
  change Coding.onPart framer (fun f d => { d with framer := f })
    (Coding.ofExcept (openFrame frame)) d = .ok answer d' at h
  unfold Coding.onPart at h
  cases hopened : openFrame frame with
  | error e =>
    rw [hopened] at h
    contradiction
  | ok other =>
    rw [hopened] at h
    injection h with hanswer
    rw [hanswer]

/-- A line is looked at for being empty before its blanks are cut off, not after. -/
theorem Device.card_nameless {answer : Answer} {chip : Chip}
    (h : Device.card answer = .ok (some chip)) : answer.data ≠ [] ∧
      (chip.identifier = [] ↔ ∀ c ∈ (Text.Utf8.lossy answer.data).toList, Text.isBlank c) := by
  unfold Device.card at h
  split_ifs at h with hempty
  · cases h
  · refine ⟨fun hnil => hempty (List.isEmpty_iff.mpr hnil), ?_⟩
    cases hread : Identifier.ofHex (Text.Utf8.lossy answer.data).toList with
    | error e =>
      rw [hread, error_bind] at h
      cases h
    | ok identifier =>
      rw [hread, ok_bind] at h
      obtain rfl := Option.some.inj (Except.ok.inj h)
      exact Identifier.ofHex_nil_iff hread

theorem Device.chipInAir_nameless [Link σ] {b c : Bench σ Device} {chip : Chip}
    (h : Device.chipInAir b = .ok (some chip) c) :
    chip.identifier = [] ↔ Nameless c.channel.last.answer := by
  obtain ⟨answer, hread, d, hdecoded⟩ := Channel.of_asked_ok h
  obtain ⟨hsome, hblank⟩ := Device.card_nameless hread
  have hframe := of_openFrame_ok (Device.decode_ok hdecoded) hsome
  rw [hblank]
  refine ⟨fun h => ⟨answer.data, hframe, hsome, h⟩, ?_⟩
  rintro ⟨body, hbody, -, h⟩
  rw [hbody] at hframe
  rwa [← List.append_cancel_right (List.cons.inj hframe).2]

end Promag

namespace AnyDevice

/-- The frames that report a card without an identifier. -/
def Nameless : AnyDevice → Bytes → Prop
  | .osdp d, frame => Osdp.Nameless d.framer.address frame
  | .promag _, frame => Promag.Nameless frame
  | _, _ => False

/-- A card that a reader reports has an identifier, unless the frame that it came on is one of those
that hold none. -/
theorem chipInAir_identified [Link σ] {b : Bench σ AnyDevice} {chip : Chip}
    (h : outcome (chipInAir b) = .ok (some chip)) :
    let c := after (chipInAir b)
    chip.identifier = [] ↔ Nameless c.driver c.channel.last.answer := by
  cases hrun : (chipInAir b : EStateM.Result ReaderError (Bench σ AnyDevice) (Option Chip)) with
  | error e c =>
    rw [hrun] at h
    contradiction
  | ok seen c =>
    rw [hrun] at h
    obtain rfl := Except.ok.inj h
    dsimp only [after]
    unfold chipInAir at hrun
    split at hrun
    all_goals obtain ⟨d, hpart, rfl⟩ := of_onPart_ok hrun
    · exact iff_of_false (Stid.Device.chipInAir_named hpart) id
    · exact iff_of_false (Rpleth.Device.chipInAir_named hpart) id
    · exact Osdp.Device.chipInAir_nameless hpart
    · exact iff_of_false (Axess.Device.chipInAir_named hpart) id
    · exact iff_of_false (Prox.Device.chipInAir_named hpart) id
    · exact Promag.Device.chipInAir_nameless hpart

/-- A host at a reader whose next answer is one frame. -/
def facing (d : AnyDevice) (frame : Bytes) : Bench ScriptedLink AnyDevice where
  world := {}
  channel :=
    .onLink
      { name := "gate", connected := true, reactions := [.deliver [(0, .chunk frame)]] } 200
  driver := d

/-- An identifier of one byte that is zero is not missing. -/
theorem chipInAir_identified_zero :
    let b := facing (.osdp { framer := { address := 0 } })
      (Osdp.Peer.frame 0x80 0 .crc none Osdp.extendedReply [0x00, 0x01, 0x00])
    outcome (chipInAir b) = .ok (some (Chip.generic [0])) ∧
      ¬Nameless (after (chipInAir b)).driver (after (chipInAir b)).channel.last.answer := by
  intro b
  have hrun : outcome (chipInAir b) = .ok (some (Chip.generic [0])) := by decide +kernel
  exact ⟨hrun, fun hnameless => absurd ((chipInAir_identified hrun).mpr hnameless) (by decide)⟩

/-- Readers of two sound configurations report a card without an identifier. -/
theorem nameless_reported :
    (∃ d, ReaderConfig.validate { family := .osdp } = .ok () ∧
      ofConfig { family := .osdp } = .ok d ∧
      outcome (chipInAir (facing d
        (Osdp.Peer.frame 0x80 0 .crc none Osdp.extendedReply [0x00, 0x01]))) =
        .ok (some (Chip.generic []))) ∧
    ∃ d, ReaderConfig.validate { family := .promag } = .ok () ∧
      ofConfig { family := .promag } = .ok d ∧
      outcome (chipInAir (facing d [stx, 0x20, cr])) = .ok (some (Chip.generic [])) :=
  ⟨⟨.osdp { framer := { address := 0 } }, by decide +kernel, rfl, by decide +kernel⟩,
    .promag {}, by decide +kernel, rfl, by decide +kernel⟩

end AnyDevice

end CardReader
