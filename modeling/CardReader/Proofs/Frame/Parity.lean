import CardReader.Proofs.Bytes.Flip
import CardReader.Proofs.Run
import CardReader.Prox.Framer
import CardReader.Rpleth.Framer

namespace CardReader

open Run

theorem exists_four {frame : Bytes} (h : 4 ≤ frame.length) :
    ∃ a b c d rest, frame = a :: b :: c :: d :: rest := by
  rcases frame with _ | ⟨a, _ | ⟨b, _ | ⟨c, _ | ⟨d, rest⟩⟩⟩⟩
  · exact absurd h (by decide)
  · exact absurd h (by simp)
  · exact absurd h (by simp)
  · exact absurd h (by simp)
  · exact ⟨a, b, c, d, rest, rfl⟩

theorem exists_concat {rest : Bytes} {n : Nat} (h : rest.length = n + 1) :
    ∃ data last, rest = data ++ [last] ∧ data.length = n := by
  have hne : rest ≠ [] := List.ne_nil_of_length_eq_add_one h
  refine ⟨rest.dropLast, rest.getLast hne, (List.dropLast_concat_getLast hne).symm, ?_⟩
  rw [List.length_dropLast]
  omega

theorem exists_split {frame : Bytes} (h : 5 ≤ frame.length) :
    ∃ a b c n data sum, frame = a :: b :: c :: n :: (data ++ [sum]) := by
  obtain ⟨a, b, c, n, rest, rfl⟩ := exists_four (Nat.le_of_succ_le h)
  obtain ⟨size, hsize⟩ := Nat.exists_eq_add_of_le' h
  obtain ⟨data, sum, rfl, -⟩ := exists_concat (Nat.add_right_cancel (m := 4) hsize)
  exact ⟨a, b, c, n, data, sum, rfl⟩

/-- A length byte is right for no more than 255 bytes. -/
theorem size_eq_iff {n : UInt8} {size : Nat} :
    n.toNat = size ↔ size ≤ 255 ∧ n = UInt8.ofNat size := by
  constructor
  · rintro rfl
    exact ⟨Nat.le_of_lt_succ n.toNat_lt, UInt8.ofNat_toNat.symm⟩
  · rintro ⟨hsize, rfl⟩
    exact UInt8.toNat_ofNat_of_lt' (Nat.lt_succ_of_le hsize)

/-- If all that is opened has the same parity, nothing that is opened can be opened with a bit
turned over. -/
theorem flip_refused {α : Type} {opening : Bytes → Except FrameError α} {parity : UInt8}
    (hparity : ∀ {frame a}, opening frame = .ok a → Checksum.xor frame = parity) {frame : Bytes}
    {a : α} (h : opening frame = .ok a) {i : Nat} (hi : i < frame.length) (k : Fin 8) :
    ∃ e, opening (Bytes.flip i k frame) = .error e := by
  cases hflip : opening (Bytes.flip i k frame) with
  | error e => exact ⟨e, rfl⟩
  | ok other =>
    have hsame := (hparity hflip).trans (hparity h).symm
    rw [Checksum.xor_flip hi] at hsame
    exact absurd hsame (Bytes.xor_bit_ne _ k)

namespace Rpleth

theorem Status.ofCode?_eq_none_iff {code : UInt8} : ofCode? code = none ↔ code = 0 := by
  constructor
  · intro h
    unfold ofCode? at h
    split at h
    · rfl
    all_goals contradiction
  · rintro rfl
    rfl

/-- The checks of an answer, in the order they are made. -/
theorem openFrame_split (status device command n : UInt8) (data : Bytes) (sum : UInt8) :
    openFrame (status :: device :: command :: n :: (data ++ [sum])) =
      let body := status :: device :: command :: n :: data
      if Checksum.xor body ≠ sum then
        .error (.checksumMismatch (Checksum.xor body).toUInt16 sum.toUInt16)
      else if data.length ≠ n.toNat then .error (.lengthMismatch n.toNat data.length)
      else
        match Status.ofCode? status with
        | some s => .error (.status (.rpleth s))
        | none => .ok ⟨status, device, command, data⟩ := by
  have hlong : ¬(status :: device :: command :: n :: data ++ [sum]).length < 5 := by
    simp only [List.length_cons, List.length_append, List.length_nil]
    omega
  have hopened := openFrame.eq_1 (status :: device :: command :: n :: data ++ [sum])
  rw [if_neg hlong, List.dropLast_concat, List.getLastD_concat] at hopened
  exact hopened

def Frame.bytes (f : Frame) : Bytes :=
  let body := f.status :: f.device :: f.command :: UInt8.ofNat f.data.length :: f.data
  body ++ [Checksum.xor body]

theorem openFrame_ok_iff {frame : Bytes} {opened : Frame} : openFrame frame = .ok opened ↔
    opened.status = 0 ∧ opened.data.length ≤ 255 ∧ opened.bytes = frame := by
  constructor
  · intro h
    by_cases hshort : frame.length < 5
    · rw [openFrame, if_pos hshort] at h
      contradiction
    · obtain ⟨status, device, command, n, data, sum, rfl⟩ := exists_split (Nat.le_of_not_lt hshort)
      rw [openFrame_split] at h
      dsimp only at h
      split_ifs at h with hsum hsize
      cases hstatus : Status.ofCode? status with
      | some s =>
        rw [hstatus] at h
        contradiction
      | none =>
        rw [hstatus] at h
        obtain rfl := Except.ok.inj h
        obtain ⟨hmost, rfl⟩ := size_eq_iff.mp (not_not.mp hsize).symm
        refine ⟨Status.ofCode?_eq_none_iff.mp hstatus, hmost, ?_⟩
        rw [← not_not.mp hsum]
        rfl
  · rintro ⟨hstatus, hmost, rfl⟩
    have hsize := (size_eq_iff.mpr ⟨hmost, rfl⟩).symm
    refine (openFrame_split _ _ _ _ _ _).trans ?_
    rw [if_neg (not_not_intro rfl), if_neg (not_not_intro hsize),
      Status.ofCode?_eq_none_iff.mpr hstatus]

theorem command_ok_iff {device code : UInt8} {data logical : Bytes} :
    command device code data = .ok logical ↔
      data.length ≤ 255 ∧ logical = device :: code :: UInt8.ofNat data.length :: data := by
  unfold command
  by_cases hlong : 255 < data.length
  · rw [if_pos hlong]
    exact iff_of_false nofun fun h => absurd h.1 (Nat.not_le_of_gt hlong)
  · rw [if_neg hlong, Except.ok.injEq, eq_comm, and_iff_right (Nat.le_of_not_lt hlong)]

theorem Framer.encode_run (f : Framer) (device code n : UInt8) {data : Bytes}
    (hsize : n.toNat = data.length) :
    encode (device :: code :: n :: data) f =
      .ok (device :: code :: n :: data ++ [Checksum.xor (device :: code :: n :: data)])
        ⟨some (device, code)⟩ := by
  unfold encode
  dsimp only
  rw [if_neg (not_not_intro hsize)]
  rfl

/-- An answer of success is opened exactly if it is a framed command behind the status byte. -/
theorem openFrame_eq_iff_framed (f : Framer) {frame : Bytes} (device code : UInt8) (data : Bytes) :
    openFrame frame = .ok ⟨0, device, code, data⟩ ↔
      ∃ logical sent, command device code data = .ok logical ∧
        outcome (Framer.encode logical f) = .ok sent ∧ frame = 0 :: sent := by
  have hbytes : Frame.bytes ⟨0, device, code, data⟩ =
      0 :: (device :: code :: UInt8.ofNat data.length :: data ++
        [Checksum.xor (device :: code :: UInt8.ofNat data.length :: data)]) := by
    rw [Frame.bytes, Checksum.xor_cons 0, UInt8.zero_xor]
    rfl
  rw [openFrame_ok_iff, hbytes]
  constructor
  · rintro ⟨-, hmost, rfl⟩
    refine ⟨_, _, command_ok_iff.mpr ⟨hmost, rfl⟩, ?_, rfl⟩
    rw [Framer.encode_run f device code _ (size_eq_iff.mpr ⟨hmost, rfl⟩)]
    rfl
  · rintro ⟨logical, sent, hlogical, hsent, rfl⟩
    obtain ⟨hmost, rfl⟩ := command_ok_iff.mp hlogical
    rw [Framer.encode_run f device code _ (size_eq_iff.mpr ⟨hmost, rfl⟩)] at hsent
    obtain rfl := Except.ok.inj hsent
    exact ⟨rfl, hmost, rfl⟩

theorem xor_opened {frame : Bytes} {opened : Frame} (h : openFrame frame = .ok opened) :
    Checksum.xor frame = 0 := by
  obtain ⟨-, -, rfl⟩ := openFrame_ok_iff.mp h
  rw [Frame.bytes, Checksum.xor_concat, UInt8.xor_self]

theorem Framer.decode_error {frame : Bytes} {e : FrameError} (h : openFrame frame = .error e)
    (f : Framer) : decode frame f = .error e f := by
  rw [decode, h]
  rfl

end Rpleth

namespace Prox

theorem exists_split {frame : Bytes} (h : 7 ≤ frame.length) :
    ∃ marker command first second n data sum last,
      frame = marker :: command :: first :: second :: n :: (data ++ [sum, last]) := by
  obtain ⟨size, hsize⟩ := Nat.exists_eq_add_of_le' h
  obtain ⟨front, last, rfl, hfront⟩ := exists_concat hsize
  obtain ⟨marker, inner, rfl⟩ := List.exists_cons_of_length_eq_add_one hfront
  have hinner : 5 ≤ inner.length := (Nat.succ.inj hfront).symm ▸ Nat.le_add_left 5 size
  obtain ⟨command, first, second, n, data, sum, rfl⟩ := CardReader.exists_split hinner
  exact ⟨marker, command, first, second, n, data, sum, last, by simp⟩

/-- The checks of an answer, in the order they are made. -/
theorem openFrame_split (marker command first second n : UInt8) (data : Bytes) (sum last : UInt8) :
    openFrame (marker :: command :: first :: second :: n :: (data ++ [sum, last])) =
      let payload := command :: first :: second :: n :: data
      if marker ≠ stx then .error (.badMarker stx marker)
      else if last ≠ etx then .error (.badTerminator etx last)
      else if Checksum.xor payload ≠ sum then
        .error (.checksumMismatch (Checksum.xor payload).toUInt16 sum.toUInt16)
      else if n.toNat ≠ data.length then .error (.lengthMismatch n.toNat data.length)
      else .ok ⟨data, command⟩ := by
  generalize hinner : command :: first :: second :: n :: data ++ [sum] = inner
  have hframe : marker :: command :: first :: second :: n :: (data ++ [sum, last]) =
      marker :: inner ++ [last] := by simp [← hinner]
  have hlong : ¬(marker :: inner ++ [last]).length < 7 := by
    rw [← hframe]
    simp only [List.length_cons, List.length_append, List.length_nil]
    omega
  have hdrop : ((marker :: inner ++ [last]).drop 1).dropLast = inner := List.dropLast_concat
  have hpayload : inner.dropLast = command :: first :: second :: n :: data := by
    rw [← hinner, List.dropLast_concat]
  have hsum : inner.getLastD 0 = sum := by rw [← hinner, List.getLastD_concat]
  rw [hframe, openFrame, if_neg hlong, List.getLastD_concat, hdrop]
  dsimp only
  rw [hpayload, hsum]
  rfl

theorem seal?_ok_iff {logical frame : Bytes} : seal? logical = .ok frame ↔
    ∃ command first second n data, logical = command :: first :: second :: n :: data ∧
      n.toNat = data.length ∧ frame = stx :: logical ++ [Checksum.xor logical, etx] := by
  constructor
  · intro h
    unfold seal? at h
    split at h
    · rename_i command first second n data
      split_ifs at h with hsize
      exact ⟨command, first, second, n, data, rfl, not_not.mp hsize, (Except.ok.inj h).symm⟩
    · contradiction
  · rintro ⟨command, first, second, n, data, rfl, hsize, rfl⟩
    exact if_neg (not_not_intro hsize)

/-- An answer is opened exactly if it is a framed command. -/
theorem openFrame_ok_iff {frame : Bytes} {answer : Answer} : openFrame frame = .ok answer ↔
    ∃ logical, seal? logical = .ok frame ∧ answer.data = logical.drop 4 ∧
      logical.head? = some answer.status := by
  constructor
  · intro h
    by_cases hshort : frame.length < 7
    · rw [openFrame, if_pos hshort] at h
      contradiction
    · obtain ⟨marker, command, first, second, n, data, sum, last, rfl⟩ :=
        exists_split (Nat.le_of_not_lt hshort)
      rw [openFrame_split] at h
      dsimp only at h
      split_ifs at h with hmarker hend hsum hsize
      obtain rfl := Except.ok.inj h
      refine ⟨command :: first :: second :: n :: data, seal?_ok_iff.mpr
        ⟨command, first, second, n, data, rfl, not_not.mp hsize, ?_⟩, rfl, rfl⟩
      rw [not_not.mp hmarker, not_not.mp hend, not_not.mp hsum]
      rfl
  · rintro ⟨logical, hsealed, hdata, hstatus⟩
    obtain ⟨command, first, second, n, data, rfl, hsize, rfl⟩ := seal?_ok_iff.mp hsealed
    obtain ⟨answered, status⟩ := answer
    obtain rfl : command = status := Option.some.inj hstatus
    obtain rfl : answered = data := hdata
    refine (openFrame_split _ _ _ _ _ _ _ _).trans ?_
    rw [if_neg (not_not_intro rfl), if_neg (not_not_intro rfl), if_neg (not_not_intro rfl),
      if_neg (not_not_intro hsize)]

theorem xor_opened {frame : Bytes} {answer : Answer} (h : openFrame frame = .ok answer) :
    Checksum.xor frame = stx ^^^ etx := by
  obtain ⟨logical, hsealed, -⟩ := openFrame_ok_iff.mp h
  obtain ⟨_, _, _, _, _, -, -, rfl⟩ := seal?_ok_iff.mp hsealed
  rw [List.cons_append, Checksum.xor_cons, Checksum.xor_append, Checksum.xor_cons,
    ← UInt8.xor_assoc (Checksum.xor logical), UInt8.xor_self, UInt8.zero_xor]
  rfl

end Prox

/-- Whatever the bytes: they are opened as an answer of success if and only if they are what framing
a command gives, with the status byte in front for Rpleth; what is read back is that command, and if
they are opened, they are not opened any more with a bit turned over. -/
theorem opened_iff_framed (frame : Bytes) :
    (∀ (f : Rpleth.Framer) (device command : UInt8) (data : Bytes),
      Rpleth.openFrame frame = .ok ⟨0, device, command, data⟩ ↔
        ∃ logical sent, Rpleth.command device command data = .ok logical ∧
          outcome (Rpleth.Framer.encode logical f) = .ok sent ∧ frame = 0 :: sent) ∧
    (∀ answer : Answer, Prox.openFrame frame = .ok answer ↔
      ∃ logical, Prox.seal? logical = .ok frame ∧ answer.data = logical.drop 4 ∧
        logical.head? = some answer.status) ∧
    (∀ opened, Rpleth.openFrame frame = .ok opened → ∀ i < frame.length, ∀ k,
      ∃ e, Rpleth.openFrame (Bytes.flip i k frame) = .error e ∧
        ∀ f, Rpleth.Framer.decode (Bytes.flip i k frame) f = .error e f) ∧
    ∀ answer, Prox.openFrame frame = .ok answer → ∀ i < frame.length, ∀ k,
      ∃ e, Prox.openFrame (Bytes.flip i k frame) = .error e := by
  refine ⟨fun f => Rpleth.openFrame_eq_iff_framed f, fun answer => Prox.openFrame_ok_iff,
    fun opened h i hi k => ?_, fun answer h i hi k => flip_refused Prox.xor_opened h hi k⟩
  obtain ⟨e, he⟩ := flip_refused Rpleth.xor_opened h hi k
  exact ⟨e, he, Rpleth.Framer.decode_error he⟩

/-- A badge read through Rpleth and an identifier read from STid PRG, both with their length byte
turned over. -/
theorem opened_iff_framed_length :
    (∃ e, Rpleth.openFrame [0x00, 0x01, 0x04, 0x03, 0xAA, 0xBB, 0x16] = .error e ∧
      ∀ f, Rpleth.Framer.decode [0x00, 0x01, 0x04, 0x03, 0xAA, 0xBB, 0x16] f = .error e f) ∧
    ∃ e, Prox.openFrame [0x02, 0x41, 0x00, 0x00, 0x00, 0x55, 0x15, 0x03] = .error e := by
  have hrpleth : Rpleth.openFrame [0x00, 0x01, 0x04, 0x02, 0xAA, 0xBB, 0x16] =
      .ok ⟨0, 0x01, 0x04, [0xAA, 0xBB]⟩ :=
    ((opened_iff_framed _).1 {} _ _ _).mpr ⟨_, _, rfl, rfl, rfl⟩
  have hprox : Prox.openFrame [0x02, 0x41, 0x00, 0x00, 0x01, 0x55, 0x15, 0x03] =
      .ok ⟨[0x55], 0x41⟩ :=
    ((opened_iff_framed _).2.1 _).mpr ⟨[0x41, 0x00, 0x00, 0x01, 0x55], rfl, rfl, rfl⟩
  exact ⟨(opened_iff_framed _).2.2.1 _ hrpleth 3 (by decide) 0,
    (opened_iff_framed _).2.2.2 _ hprox 4 (by decide) 0⟩

end CardReader
