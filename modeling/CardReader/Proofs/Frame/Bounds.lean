import CardReader.AnyDevice
import CardReader.Proofs.Frame.Chunks
import CardReader.Proofs.Frame.Parity
import CardReader.Proofs.Osdp.Sequence
import CardReader.Proofs.Stid.Authenticity

namespace CardReader

open Run

/-- A frame is refused for where it starts or ends, or for its length. An OSDP or STid STR frame may
still be too short for what its flags and its message announce, and the end byte of a STid PRG frame
is only looked at when it is opened. -/
def FrameError.misfits (family : Family) : FrameError → Bool
  | .badMarker _ _ | .lengthMismatch _ _ => true
  | .badTerminator _ _ => family == .axess || family == .promag
  | .tooShort _ _ =>
    family == .rpleth || family == .axess || family == .stidPrg || family == .promag
  | _ => false

/-- A frame that starts with the marker, is long enough to know its length, and has that length. -/
structure Header.Spans (h : Header) (frame : Bytes) : Prop where
  marked : ∀ m, h.marker = some m → frame.head? = some m
  known_le : h.known ≤ frame.length
  length_eq : frame.length = h.total frame

namespace Family

/-- Frames with the bounds of the protocol. -/
def Bounds : Family → Bytes → Prop
  | .rpleth, frame => Header.rpleth.Spans frame
  | .stidStr, frame => Header.stidStr.Spans frame
  | .osdp, frame => Header.osdp.Spans frame
  | .stidPrg, frame => Header.stidPrg.Spans frame
  | .axess, frame => ∃ body, frame = body ++ [cr]
  | .promag, frame =>
    frame.head? = some esc ∨ frame.head? = some bel ∨ ∃ body, frame = stx :: body ++ [cr]

theorem bounds_of_spans (family : Family) (h : Header) (hh : family.header? = some h)
    {frame : Bytes} (hs : h.Spans frame) : family.Bounds frame := by
  cases family with
  | axess => cases hh
  | promag => cases hh
  | _ => obtain rfl := Option.some.inj hh; exact hs

/-- A frame that is not refused for its size is long enough to know that size. -/
theorem known_le_total (family : Family) (h : Header) (hh : family.header? = some h)
    (data : Bytes) (hr : h.refuses (h.total data) = false) : h.known ≤ h.total data := by
  cases family with
  | rpleth =>
    obtain rfl := Option.some.inj hh
    simp only [Header.rpleth]
    omega
  | stidStr =>
    obtain rfl := Option.some.inj hh
    simp only [Header.stidStr]
    omega
  | osdp =>
    obtain rfl := Option.some.inj hh
    have hn := of_decide_eq_false hr
    simp only [Header.osdp, osdpLeast] at hn ⊢
    omega
  | stidPrg =>
    obtain rfl := Option.some.inj hh
    simp only [Header.stidPrg]
    omega
  | axess => cases hh
  | promag => cases hh

end Family

theorem Header.judge_accepts (h : Header) (capacity : Nat) (data : Bytes) (n : Nat)
    (hf : h.judge capacity data = .frame n) : h.refuses (h.total data) = false := by
  unfold judge at hf
  split_ifs at hf with h1 h2 h3 h4 h5
  simpa using h4

namespace Cut

/-- A frame cut out by its header has the length that its own header announces. -/
theorem within_spans (family : Family) (h : Header) (hh : family.header? = some h)
    (capacity : Nat) (data : Bytes) (n : Nat) (hf : within capacity family data = .frame n) :
    h.Spans (data.take n) := by
  cases data with
  | nil => rw [within_nil] at hf; cases hf
  | cons a rest =>
    obtain ⟨k, -, hnoise⟩ | ⟨ha, hjudge⟩ := within_header family h hh capacity a rest
    · rw [hnoise] at hf
      cases hf
    · rw [hjudge] at hf
      obtain ⟨hn, hpos, hle, -⟩ := h.judge_frame capacity _ n hf
      have hknown := family.known_le_total h hh _ (h.judge_accepts capacity _ n hf)
      -- The header lies within the frame, so the frame announces what all the bytes announce.
      have hlen : ((a :: rest).take n).length = n := List.length_take_of_le hle
      have htotal := h.total_append ((a :: rest).take n) ((a :: rest).drop n) (by omega)
      rw [List.take_append_drop] at htotal
      refine ⟨fun m hm => ?_, by omega, by omega⟩
      obtain ⟨k, rfl⟩ := Nat.exists_eq_add_of_lt hpos
      rw [h.misses_eq_false a m hm ha]
      rfl

theorem line_ends (data : Bytes) (n : Nat) (hf : line data = .frame n) :
    ∃ body, data.take n = body ++ [cr] := by
  unfold line at hf
  split at hf
  · rename_i i hi
    obtain rfl : i + 1 = n := Cut.frame.inj hf
    obtain ⟨hlt, hcr, -⟩ := List.findIdx?_eq_some_iff_getElem.mp hi
    refine ⟨data.take i, ?_⟩
    rw [List.take_succ_eq_append_getElem hlt, eq_of_beq hcr]
  · cases hf

/-- What is cut out of received bytes has the bounds of the protocol. -/
theorem within_bounds (family : Family) (capacity : Nat) (data : Bytes) (n : Nat)
    (hf : within capacity family data = .frame n) : family.Bounds (data.take n) := by
  cases hh : family.header? with
  | some h => exact family.bounds_of_spans h hh (within_spans family h hh capacity data n hf)
  | none =>
    cases data with
    | nil => rw [within_nil] at hf; cases hf
    | cons a rest =>
      cases family with
      | axess =>
        rw [within_axess] at hf
        exact line_ends _ n hf
      | promag =>
        rw [within_promag, promag] at hf
        split_ifs at hf with hwhole hline
        · obtain rfl : (a :: rest).length = n := Cut.frame.inj hf
          rw [List.take_length]
          exact hwhole.elim .inl fun hbel => .inr (.inl hbel)
        · obtain rfl : a = stx := Option.some.inj hline
          obtain ⟨body, hbody⟩ := line_ends _ n hf
          have hpos := (line_frame _ n hf).1
          obtain ⟨k, rfl⟩ := Nat.exists_eq_add_of_lt hpos
          cases body with
          | nil => exact absurd (List.cons.inj hbody).1 (by decide)
          | cons b body =>
            obtain rfl : stx = b := (List.cons.inj hbody).1
            exact .inr (.inr ⟨body, hbody⟩)
      | _ => cases hh

end Cut

namespace FrameBuffer

theorem take_found (capacity : Nat) (family : Family) (data frame rest : Bytes)
    (h : take capacity family data = (some frame, rest)) :
    ∃ front n, Cut.within capacity family front = .frame n ∧ frame = front.take n := by
  fun_induction take capacity family data with
  | case1 => cases h
  | case2 a tail hw => cases h
  | case3 a tail n hw => exact ⟨a :: tail, n, hw, (Option.some.inj (Prod.mk.inj h).1).symm⟩
  | case4 a tail n hw ih => exact ih h

theorem next_bounds (family : Family) (b b' : FrameBuffer) (frame : Bytes)
    (h : b.next family = (some frame, b')) : family.Bounds frame := by
  unfold next at h
  rcases ht : take b.capacity family b.data with ⟨found, rest⟩
  rw [ht] at h
  obtain rfl : found = some frame := (Prod.mk.inj h).1
  obtain ⟨front, n, hw, rfl⟩ := take_found _ _ _ _ _ ht
  exact Cut.within_bounds family _ front n hw

end FrameBuffer

namespace Rpleth

theorem openFrame_fits {frame : Bytes} (hb : Family.rpleth.Bounds frame) {e : FrameError}
    (h : openFrame frame = .error e) : e.misfits .rpleth = false := by
  obtain ⟨-, hknown, hlength⟩ := hb
  obtain ⟨status, device, command, n, rest, rfl⟩ := exists_four hknown
  -- Header and checksum are counted on both sides: `n` bytes are left between them.
  have hrest : rest.length = n.toNat + 1 := Nat.add_right_cancel (m := 4) hlength
  obtain ⟨data, last, rfl, hdata⟩ := exists_concat hrest
  rw [openFrame_split] at h
  dsimp only at h
  split_ifs at h with hsum hsize
  · rw [← Except.error.inj h]
    rfl
  · exact absurd hdata hsize
  · cases hs : Status.ofCode? status with
    | some reported =>
      rw [hs] at h
      rw [← Except.error.inj h]
      rfl
    | none =>
      rw [hs] at h
      cases h

theorem Framer.decode_fits {frame : Bytes} (hb : Family.rpleth.Bounds frame) :
    Fails (fun e => FrameError.misfits .rpleth e = false) (decode frame) := by
  unfold decode
  refine Fails.bind (Coding.ofExcept_fails fun e h => openFrame_fits hb h) fun opened => ?_
  refine Fails.bind Fails.get fun f => ?_
  split
  · exact Fails.pure _
  · refine Fails.guarded ?_ (Fails.pure _)
    rfl

end Rpleth

namespace Prox

theorem openFrame_fits {frame : Bytes} (hb : Family.stidPrg.Bounds frame) {e : FrameError}
    (h : openFrame frame = .error e) : e.misfits .stidPrg = false := by
  obtain ⟨hmarked, hknown, hlength⟩ := hb
  obtain ⟨marker, command, first, second, rest, rfl⟩ := exists_four (Nat.le_of_succ_le hknown)
  obtain rfl : marker = stx := Option.some.inj (hmarked stx rfl)
  cases rest with
  | nil => exact absurd hknown (Nat.lt_irrefl 4)
  | cons n rest =>
    have hrest : rest.length = n.toNat + 1 + 1 := Nat.add_right_cancel (m := 5) hlength
    obtain ⟨front, last, rfl, hfront⟩ := exists_concat hrest
    obtain ⟨data, sum, rfl, hdata⟩ := exists_concat hfront
    rw [List.append_assoc, List.singleton_append, openFrame_split] at h
    dsimp only at h
    split_ifs at h with hmarker hend hsum hsize
    · exact absurd rfl hmarker
    · rw [← Except.error.inj h]
      rfl
    · rw [← Except.error.inj h]
      rfl
    · exact absurd hdata.symm hsize

end Prox

namespace Axess

theorem openFrame_fits {frame : Bytes} (hb : Family.axess.Bounds frame) {e : FrameError}
    (h : openFrame frame = .error e) : e.misfits .axess = false := by
  obtain ⟨body, rfl⟩ := hb
  rw [openFrame, List.getLast?_concat] at h
  cases h

end Axess

namespace Promag

theorem openFrame_line (body : Bytes) : openFrame (stx :: body ++ [cr]) = .ok ⟨body, 0⟩ := by
  have hbel : ¬stx = bel := by decide
  have hesc : ¬stx = esc := by decide
  rw [List.cons_append, openFrame, if_neg hbel, if_neg hesc, if_neg (not_not_intro rfl),
    List.getLast?_concat]
  dsimp only
  rw [if_pos rfl, List.dropLast_concat]

theorem openFrame_fits {frame : Bytes} (hb : Family.promag.Bounds frame) {e : FrameError}
    (h : openFrame frame = .error e) : e.misfits .promag = false := by
  obtain hesc | hbel | ⟨body, rfl⟩ := hb
  · obtain ⟨code, rfl⟩ := List.head?_eq_some_iff.mp hesc
    obtain rfl := Except.error.inj h
    rfl
  · obtain ⟨rest, rfl⟩ := List.head?_eq_some_iff.mp hbel
    cases h
  · rw [openFrame_line] at h
    cases h

end Promag

namespace Osdp

/-- A reply within the bounds of the protocol is not refused for them while its head is read. -/
theorem readHead_fits {frame : Bytes} (hb : Family.osdp.Bounds frame) {e : FrameError}
    (h : Cursor.run (readHead frame.length) frame = .error e) : e.misfits .osdp = false := by
  obtain ⟨hmarked, hknown, hlength⟩ := hb
  generalize frame.length = size at h hlength
  obtain ⟨marker, address, lo, hi, rest, rfl⟩ := exists_four hknown
  obtain rfl : marker = som := Option.some.inj (hmarked som rfl)
  have hdeclared : ¬(Bytes.word hi lo).toNat ≠ size := not_not_intro hlength.symm
  have hrun : readHead size (Cursor.start (som :: address :: lo :: hi :: rest)) =
      (Cursor.byte >>= fun control => pure (address, control)) ⟨4, rest⟩ := by
    rw [readHead, Cursor.start, bind_ok (Cursor.byte_cons 0 som _), if_neg (not_not_intro rfl)]
    dsimp only
    rw [bind_ok (Cursor.byte_cons _ address _), bind_ok (Cursor.littleEndian_cons _ lo hi rest),
      if_neg hdeclared]
  have hfails : Fails (fun e => FrameError.misfits .osdp e = false)
      (Cursor.byte >>= fun control => pure (address, control) : Cursor.Read (UInt8 × UInt8)) :=
    Fails.bind (Cursor.byte_fails fun _ _ => rfl) fun _ => Fails.pure _
  unfold Cursor.run at h
  rw [hrun] at h
  generalize hout : (Cursor.byte >>= fun control => pure (address, control) :
    Cursor.Read (UInt8 × UInt8)) ⟨4, rest⟩ = out at h
  cases out with
  | ok head c => cases h
  | error e' c =>
    rw [← Except.error.inj h]
    exact hfails _ _ _ hout

theorem Framer.decode_fits {frame : Bytes} (hb : Family.osdp.Bounds frame) :
    Fails (fun e => FrameError.misfits .osdp e = false) (decode frame) := by
  unfold decode
  refine Fails.bind Fails.get fun f => ?_
  refine Fails.bind (Coding.ofExcept_fails fun e h => ?_) fun reply => ?_
  · exact openReply_of_head (fun _ _ => rfl) (fun _ _ => rfl) (fun _ => rfl)
      (fun _ => readHead_fits hb) h
  · refine Fails.guarded ?_ (Fails.bind (Fails.put _) fun _ => Fails.guarded ?_ (Fails.pure _))
    · rfl
    · rfl

end Osdp

namespace Stid.Framer

section Opening

variable {E : FrameError → Prop}

theorem ofSession_fails {α : Type} (hsession : ∀ cause, E (.session cause))
    (out : Except SessionError α) : Fails E (ofSession out) := by
  cases out with
  | ok a => exact Fails.pure a
  | error cause => exact Fails.throw (hsession cause)

variable (hshort : ∀ expected actual, E (.tooShort expected actual))
  (hsession : ∀ cause, E (.session cause))
include hshort hsession

theorem checkSignature_fails (hsignature : E .signatureMismatch) (message : Bytes) :
    Fails E (checkSignature message) := by
  unfold checkSignature
  refine Fails.guarded (hshort _ _) (Fails.bind Fails.get fun f => ?_)
  refine Fails.bind (ofSession_fails hsession _) fun key => ?_
  exact Fails.guarded hsignature (Fails.pure _)

theorem decipher_fails (message : Bytes) : Fails E (decipher message) := by
  unfold decipher
  refine Fails.guarded (hshort _ _) (Fails.bind Fails.get fun f => ?_)
  refine Fails.bind (ofSession_fails hsession _) fun key => ?_
  refine Fails.bind (ofSession_fails hsession _) fun plain => ?_
  exact Fails.bind (Fails.change _) fun _ => Fails.pure _

omit hsession in
theorem readAnswer_fails (hcause : ∀ cause, E (.unexpectedAnswer cause))
    (hstatus : ∀ reported, E (.status reported)) (type : CommandType) (code : UInt16) :
    Fails E (readAnswer type code) := by
  unfold readAnswer
  refine Fails.bind (Cursor.bigEndian_fails hshort) fun acknowledged => ?_
  refine Fails.guarded (hcause _) (Fails.bind (Cursor.bigEndian_fails hshort) fun length => ?_)
  refine Fails.bind (Cursor.take_fails hshort _) fun data => ?_
  refine Fails.bind (Cursor.byte_fails hshort) fun answered => ?_
  refine Fails.guarded (hcause _) (Fails.bind (Cursor.byte_fails hshort) fun status => ?_)
  split
  · exact Fails.throw (hstatus _)
  · exact Fails.pure _

/-- Marker and declared size are not looked at any more once the message is out of its frame. -/
theorem unprotect_fails (hsignature : E .signatureMismatch)
    (hcause : ∀ cause, E (.unexpectedAnswer cause)) (hstatus : ∀ reported, E (.status reported))
    (mode : Mode) (message : Bytes) : Fails E (unprotect mode message) := by
  rw [unprotect_eq]
  refine Fails.bind (Fails.ite (checkSignature_fails hshort hsession hsignature _)
    (Fails.pure _)) fun body => ?_
  refine Fails.bind (Fails.ite (decipher_fails hshort hsession _) (Fails.pure _)) fun plain => ?_
  refine Fails.bind Fails.get fun f => Coding.ofExcept_fails fun e h => ?_
  exact Cursor.run_fails (readAnswer_fails hshort hcause hstatus _ _) h

end Opening

theorem length_of_bounds {frame : Bytes} (hb : Family.stidStr.Bounds frame) :
    frame.length = declared frame + 7 := hb.length_eq

theorem decode_fits {frame : Bytes} (hb : Family.stidStr.Bounds frame) :
    Fails (fun e => FrameError.misfits .stidStr e = false) (decode frame) := by
  unfold decode
  refine Fails.bind Fails.get fun f => ?_
  refine Fails.bind (Coding.ofExcept_fails fun e h => ?_) fun message => ?_
  · rcases deframe_refused h with ⟨_, _, rfl⟩ | ⟨_, rfl, hmarker⟩ | ⟨_, _, rfl, hsize⟩ | ⟨_, rfl⟩ |
      ⟨_, _, rfl⟩
    · rfl
    · exact absurd (hb.marked stx rfl) hmarker
    · exact absurd (length_of_bounds hb) (Nat.ne_of_lt hsize)
    · rfl
    · rfl
  · exact unprotect_fails (E := fun e => e.misfits .stidStr = false) (fun _ _ => rfl)
      (fun _ => rfl) rfl (fun _ => rfl) (fun _ => rfl) _ _

end Stid.Framer

namespace AnyDevice

theorem wrapped_fails {ι α : Type} {E : FrameError → Prop} {wrap : ι → AnyDevice}
    {step : Coding ι α} (hstep : Fails E step) {i : ι} {e : FrameError} {d : AnyDevice}
    (h : Coding.wrapped wrap (step i) = .error e d) : E e := by
  cases hrun : step i with
  | ok a i' =>
    rw [hrun] at h
    cases h
  | error e' i' =>
    rw [hrun] at h
    rw [← (EStateM.Result.error.inj h).1]
    exact hstep i e' i' hrun

/-- A codec in any state takes the bounds of its family for those of a frame. -/
theorem decode_fits (d : AnyDevice) {frame : Bytes} (hb : (Codec.family d).Bounds frame)
    {e : FrameError} {d' : AnyDevice} (h : Codec.decode frame d = .error e d') :
    e.misfits (Codec.family d) = false := by
  cases d with
  | stidStr d => exact wrapped_fails (Coding.onPart_fails _ _ (Stid.Framer.decode_fits hb)) h
  | rpleth d => exact wrapped_fails (Coding.onPart_fails _ _ (Rpleth.Framer.decode_fits hb)) h
  | osdp d => exact wrapped_fails (Coding.onPart_fails _ _ (Osdp.Framer.decode_fits hb)) h
  | axess d =>
    have hfits := Coding.ofExcept_fails (κ := Axess.Framer) fun _ => Axess.openFrame_fits hb
    exact wrapped_fails (Coding.onPart_fails _ _ hfits) h
  | stidPrg d =>
    have hfits := Coding.ofExcept_fails (κ := Prox.Framer) fun _ => Prox.openFrame_fits hb
    exact wrapped_fails (Coding.onPart_fails _ _ hfits) h
  | promag d =>
    have hfits := Coding.ofExcept_fails (κ := Promag.Framer) fun _ => Promag.openFrame_fits hb
    exact wrapped_fails (Coding.onPart_fails _ _ hfits) h

/-- Whatever a buffer holds and however much it may hold, a codec in any state does not refuse for
its bounds the frame that comes next, and a STid STR frame has the size it declares. -/
theorem next_fits (d : AnyDevice) (b b' : FrameBuffer) (frame : Bytes)
    (h : b.next (Codec.family d) = (some frame, b')) :
    (∀ e d', Codec.decode frame d = .error e d' → e.misfits (Codec.family d) = false) ∧
      (Codec.family d = .stidStr → frame.length = Stid.declared frame + 7) := by
  have hb := FrameBuffer.next_bounds _ b b' frame h
  refine ⟨fun e d' => decode_fits d hb, fun hf => ?_⟩
  rw [hf] at hb
  exact Stid.Framer.length_of_bounds hb

/-- An OSDP host that has sent nothing. -/
def quiet : AnyDevice := .osdp { framer := { address := 0 } }

/-- A reply behind noise whose control byte asks for a two-byte check that there is no room for. It
is too short for what it says of itself, but it was cut where it ends. -/
theorem next_fits_flagged :
    (FrameBuffer.mk [0x00, 0x53, 0x80, 0x07, 0x00, 0x04, 0x40, 0xAA, 0x53] 9).next .osdp =
        (some [0x53, 0x80, 0x07, 0x00, 0x04, 0x40, 0xAA], ⟨[0x53], 9⟩) ∧
      Codec.decode [0x53, 0x80, 0x07, 0x00, 0x04, 0x40, 0xAA] quiet =
        .error (.tooShort 8 7) quiet ∧
      (FrameError.tooShort 8 7).misfits .osdp = false := by
  have hnext : (FrameBuffer.mk [0x00, 0x53, 0x80, 0x07, 0x00, 0x04, 0x40, 0xAA, 0x53] 9).next
      (Codec.family quiet) =
        (some [0x53, 0x80, 0x07, 0x00, 0x04, 0x40, 0xAA], ⟨[0x53], 9⟩) := by
    decide +kernel
  exact ⟨hnext, rfl, (next_fits _ _ _ _ hnext).1 _ _ rfl⟩

end AnyDevice

end CardReader
