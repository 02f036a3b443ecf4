import CardReader.Axess.Framer
import CardReader.Osdp.Framer
import CardReader.Promag.Framer
import CardReader.Prox.Framer
import CardReader.Proofs.Access.Place
import CardReader.Rpleth.Framer

namespace CardReader.Access

/-- A step of a codec that takes byte strings apart. -/
abbrev Opening (κ α : Type) := EStateM (Stop FrameError) κ α

theorem step_lift {κ α : Type} (x : Except FrameError α) :
    (step (lift x) : Opening κ α) = lifted (Coding.ofExcept x) := by
  cases x with
  | ok a => rfl
  | error e => rfl

theorem Place.byte_run {p : Place} {b : UInt8} (h : p.data[p.position]? = some b) :
    byte p = .ok b ⟨p.data, p.position + 1⟩ := by
  obtain ⟨hinside, hb⟩ := List.getElem?_eq_some_iff.mp h
  have htake := take_run (Nat.le_of_lt hinside) 1
  rw [if_neg (by omega), List.drop_eq_getElem_cons hinside, hb] at htake
  unfold byte
  rw [Run.bind_ok htake]
  rfl

theorem exists_last {data : Bytes} (h : data ≠ []) : ∃ front last, data = front ++ [last] :=
  ⟨data.dropLast, data.getLast h, (List.dropLast_concat_getLast h).symm⟩

def splitLast (data : Bytes) : Option (UInt8 × Bytes) := data.getLast?.map (·, data.dropLast)

section

open Rpleth

/-- Reads what stands before the checksum. -/
def readRpleth : Place.Read Frame := do
  let status ← Place.byte
  let device ← Place.byte
  let command ← Place.byte
  let n ← Place.byte
  let left ← Place.remaining
  if left ≠ n.toNat then throw (.reported (.lengthMismatch n.toNat left))
  match Status.ofCode? status with
  | some s => throw (.reported (.status (.rpleth s)))
  | none =>
    let data ← Place.remainder
    return ⟨status, device, command, data⟩

def openRpleth (frame : Bytes) : Try FrameError Frame :=
  if frame.length < 5 then report (.tooShort 5 frame.length)
  else do
    let (body, trailer) ← split frame (← minus frame.length 1)
    let expected := Checksum.xor body
    let received ← byteAt trailer 0
    if expected ≠ received then report (.checksumMismatch expected.toUInt16 received.toUInt16)
    else Place.run readRpleth body

def decodeRpleth (frame : Bytes) : Opening Framer Answer := do
  let opened ← step (openRpleth frame)
  match (← get).last with
  | none => return ⟨opened.data, opened.status⟩
  | some (device, code) =>
    if opened.device ≠ device ∨ opened.command ≠ code then
      throw (.reported (.unexpectedAnswer (.device opened.device opened.command device code)))
    return ⟨opened.data, opened.status⟩

theorem readRpleth_run (status device command n : UInt8) (data : Bytes) :
    Place.run readRpleth (status :: device :: command :: n :: data) =
      if data.length ≠ n.toNat then report (.lengthMismatch n.toNat data.length)
      else
        match Status.ofCode? status with
        | some s => report (.status (.rpleth s))
        | none => .ok ⟨status, device, command, data⟩ := by
  have hinside : Place.Inside ⟨status :: device :: command :: n :: data, 4⟩ := by
    simp [Place.Inside]
  have hleft : Place.remaining ⟨status :: device :: command :: n :: data, 4⟩ =
      .ok data.length ⟨status :: device :: command :: n :: data, 4⟩ := by
    rw [Place.remaining_run hinside]
    rfl
  have hrest := Place.remainder_run hinside
  unfold Place.run readRpleth
  rw [Run.bind_ok (Place.byte_run rfl), Run.bind_ok (Place.byte_run rfl),
    Run.bind_ok (Place.byte_run rfl), Run.bind_ok (Place.byte_run rfl), Run.bind_ok hleft]
  by_cases hn : data.length ≠ n.toNat
  · rw [if_pos hn, if_pos hn]
    rfl
  · rw [if_neg hn, if_neg hn]
    cases Status.ofCode? status with
    | some s => rfl
    | none =>
      dsimp only
      rw [Run.bind_ok hrest]
      rfl

theorem openRpleth_eq (frame : Bytes) : openRpleth frame = lift (openFrame frame) := by
  unfold openRpleth openFrame
  by_cases hshort : frame.length < 5
  · rw [if_pos hshort, if_pos hshort]
    rfl
  · rw [if_neg hshort, if_neg hshort]
    have hsome : frame ≠ [] := fun h => hshort (by simp [h])
    obtain ⟨body, received, rfl⟩ := exists_last hsome
    rw [List.length_append, List.length_singleton] at hshort
    rw [List.length_append, List.length_singleton, minus_eq (Nat.le_add_left _ _), Run.ok_bind,
      Nat.add_sub_cancel, split_eq (by simp), Run.ok_bind, List.take_left, List.drop_left,
      List.dropLast_concat, List.getLastD_concat]
    dsimp only
    rw [byteAt_eq Nat.zero_lt_one, Run.ok_bind, lift_ite]
    refine ite_congr rfl (fun _ => rfl) fun _ => ?_
    rcases body with _ | ⟨status, _ | ⟨device, _ | ⟨command, _ | ⟨n, data⟩⟩⟩⟩
    · exact absurd (by simp) hshort
    · exact absurd (by simp) hshort
    · exact absurd (by simp) hshort
    · exact absurd (by simp) hshort
    · rw [readRpleth_run, lift_ite]
      refine ite_congr rfl (fun _ => rfl) fun _ => ?_
      cases Status.ofCode? status with
      | some s => rfl
      | none => rfl

theorem decodeRpleth_eq (frame : Bytes) : decodeRpleth frame = lifted (Codec.decode frame) := by
  change _ = lifted (Framer.decode frame)
  unfold decodeRpleth Framer.decode
  rw [openRpleth_eq, step_lift]
  rw [lifted_bind]
  refine congrArg _ (funext fun opened => ?_)
  rw [lifted_bind]
  refine congrArg _ (funext fun f => ?_)
  cases f.last with
  | none => rfl
  | some last =>
    dsimp only
    rw [lifted_ite]
    rfl

end

section

open Osdp

def readOsdpHead (length : Nat) : Place.Read (UInt8 × UInt8) := do
  let marker ← Place.byte
  if marker ≠ som then throw (.reported (.badMarker som marker))
  let address ← Place.byte
  let declared ← Place.littleEndian
  if declared.toNat ≠ length then throw (.reported (.lengthMismatch declared.toNat length))
  let control ← Place.byte
  return (address, control)

def readOsdpTail (control : UInt8) : Place.Read (UInt8 × Bytes) := do
  if control &&& blockBit ≠ 0 then
    let length ← Place.byte
    let _ ← Place.take (length.toNat - 1)
  let code ← Place.byte
  let data ← Place.remainder
  return (code, data)

/-- Checks the trailer after `body`, of two bytes or of one. -/
def checkOsdpTrailer (body check : Bytes) (trailer : Nat) : Try FrameError Unit :=
  if trailer = 2 then do
    let expected := Checksum.crc Checksum.seedOsdp body
    let lo ← byteAt check 0
    let hi ← byteAt check 1
    let received := Bytes.word hi lo
    if expected ≠ received then report (.checksumMismatch expected received) else return ()
  else do
    let expected := Checksum.sum8 body
    let received ← byteAt check 0
    if expected ≠ received then report (.checksumMismatch expected.toUInt16 received.toUInt16)
    else return ()

def openOsdp (own : UInt8) (frame : Bytes) : Try FrameError Reply := do
  let (address, control) ← Place.run (readOsdpHead frame.length) frame
  let trailer := if control &&& crcBit ≠ 0 then 2 else 1
  if frame.length < 6 + trailer then report (.tooShort (6 + trailer) frame.length)
  else
    let (body, check) ← split frame (← minus frame.length trailer)
    checkOsdpTrailer body check trailer
    if address ≠ own ||| replyBit then
      report (.unexpectedAnswer (.replyAddress address (own ||| replyBit)))
    else
      let tail ← slice body 5 body.length
      let (code, data) ← Place.run (readOsdpTail control) tail
      return ⟨address, control &&& 0x03, code, data⟩

def decodeOsdp (frame : Bytes) : Opening Framer Answer := do
  let f ← get
  let reply ← step (openOsdp f.address frame)
  if reply.sequence ≠ f.sequence then
    throw (.reported (.unexpectedAnswer (.sequence reply.sequence f.sequence)))
  set { f with sequence := Framer.succ f.sequence }
  if reply.code = nakReply then throw (.reported (.status (.osdpNak (reply.data.headD 0))))
  return ⟨reply.data, reply.code⟩

theorem follows_readOsdpHead (length : Nat) :
    Place.Follows (readOsdpHead length) (readHead length) := by
  refine Place.follows_byte.bind fun marker => Place.Follows.guarded _ ?_
  refine Place.follows_byte.bind fun address => ?_
  refine Place.follows_littleEndian.bind fun declared => Place.Follows.guarded _ ?_
  exact Place.follows_byte.bind fun control => .pure _

theorem follows_readOsdpTail (control : UInt8) :
    Place.Follows (readOsdpTail control) (readTail control) := by
  have hlast : Place.Follows (do
      let code ← Place.byte
      let data ← Place.remainder
      return (code, data)) (do
      let code ← Cursor.byte
      return (code, ← Cursor.remainder)) :=
    Place.follows_byte.bind fun code => Place.follows_remainder.bind fun data => .pure _
  refine Place.Follows.ite (Place.follows_byte.bind fun length => ?_) hlast
  exact (Place.follows_take _).bind fun _ => hlast

theorem checkOsdpTrailer_eq {body check : Bytes} {trailer : Nat} (h : check.length = trailer)
    (ht : trailer = 2 ∨ trailer = 1) :
    checkOsdpTrailer body check trailer = lift (checkTrailer body check) := by
  subst h
  obtain ht | ht := ht
  · match check, ht with
    | [lo, hi], _ =>
      unfold checkTrailer
      rw [lift_ite]
      rfl
  · match check, ht with
    | [sum], _ =>
      unfold checkTrailer
      rw [lift_ite]
      rfl

/-- The trailer is split off only where the frame is long enough for it, so that nothing before it
is reached for. -/
theorem openOsdp_eq (own : UInt8) (frame : Bytes) :
    openOsdp own frame = lift (openReply own frame) := by
  unfold openOsdp openReply
  rw [(follows_readOsdpHead frame.length).run, lift_bind]
  refine congrArg _ (funext fun head => ?_)
  obtain ⟨address, control⟩ := head
  dsimp only
  generalize htrailer : (if control &&& crcBit ≠ 0 then 2 else 1) = trailer
  have ht : trailer = 2 ∨ trailer = 1 := by
    rw [← htrailer]
    split
    · exact .inl rfl
    · exact .inr rfl
  rw [lift_ite]
  refine ite_congr rfl (fun _ => rfl) fun hlong => ?_
  have hlength : (frame.take (frame.length - trailer)).length = frame.length - trailer := by
    rw [List.length_take]
    omega
  rw [minus_eq (by omega), Run.ok_bind, split_eq (Nat.sub_le _ _), Run.ok_bind, lift_bind]
  dsimp only
  rw [checkOsdpTrailer_eq (by rw [List.length_drop]; omega) ht]
  refine congrArg _ (funext fun _ => ?_)
  rw [lift_ite]
  refine ite_congr rfl (fun _ => rfl) fun _ => ?_
  rw [slice_rest (by omega), Run.ok_bind, (follows_readOsdpTail control).run, lift_bind]
  rfl

theorem decodeOsdp_eq (frame : Bytes) : decodeOsdp frame = lifted (Codec.decode frame) := by
  change _ = lifted (Framer.decode frame)
  unfold decodeOsdp Framer.decode
  rw [lifted_bind, lifted_get]
  refine congrArg _ (funext fun f => ?_)
  rw [openOsdp_eq, step_lift, lifted_bind]
  refine congrArg _ (funext fun reply => ?_)
  rw [lifted_ite]
  refine ite_congr rfl (fun _ => rfl) fun _ => ?_
  rw [lifted_bind]
  refine congrArg _ (funext fun _ => ?_)
  rw [lifted_ite]
  rfl

end

/-- Reads the payload of an answer, with the checksum that was received. -/
def readProx (payload : Bytes) (received : UInt8) : Try FrameError Answer :=
  let expected := Checksum.xor payload
  if expected ≠ received then report (.checksumMismatch expected.toUInt16 received.toUInt16)
  else do
    let declared ← byteAt payload 3
    let actual ← minus payload.length 4
    if declared.toNat ≠ actual then report (.lengthMismatch declared.toNat actual)
    else
      let data ← slice payload 4 payload.length
      let status ← byteAt payload 0
      return ⟨data, status⟩

def openProx (frame : Bytes) : Try FrameError Answer :=
  if frame.length < 7 then report (.tooShort 7 frame.length)
  else do
    let first ← byteAt frame 0
    if first ≠ stx then report (.badMarker stx first)
    else
      let last ← byteAt frame (← minus frame.length 1)
      if last ≠ etx then report (.badTerminator etx last)
      else
        let payload ← slice frame 1 (← minus frame.length 2)
        let received ← byteAt frame (← minus frame.length 2)
        readProx payload received

def decodeProx (frame : Bytes) : Opening Prox.Framer Answer := step (openProx frame)

theorem readProx_eq (command p q n received : UInt8) (data : Bytes) :
    readProx (command :: p :: q :: n :: data) received =
      let expected := Checksum.xor (command :: p :: q :: n :: data)
      if expected ≠ received then report (.checksumMismatch expected.toUInt16 received.toUInt16)
      else if n.toNat ≠ data.length then report (.lengthMismatch n.toNat data.length)
      else .ok ⟨data, command⟩ := by
  have hlength : (command :: p :: q :: n :: data).length - 4 = data.length := rfl
  unfold readProx
  rw [byteAt_eq (by simp), byteAt_eq (by simp), minus_eq (by simp), slice_rest (by simp), hlength]
  rfl

theorem openProx_eq (frame : Bytes) : openProx frame = lift (Prox.openFrame frame) := by
  unfold openProx Prox.openFrame
  rw [lift_ite]
  refine ite_congr rfl (fun _ => rfl) fun hshort => ?_
  -- The first byte, the payload, its checksum and the last byte.
  have hframe : frame ≠ [] := fun h => hshort (by simp [h])
  obtain ⟨inner, last, rfl⟩ := exists_last hframe
  have hinside : inner ≠ [] := fun h => hshort (by simp [h])
  obtain ⟨front, received, rfl⟩ := exists_last hinside
  rcases front with _ | ⟨first, payload⟩
  · exact absurd (by simp) hshort
  have hlength : (first :: payload ++ [received] ++ [last]).length = payload.length + 3 := by
    simp
  have hlast : (first :: payload ++ [received] ++ [last]).getD (payload.length + 2) 0 = last := by
    simp [List.getD_eq_getElem?_getD]
  have hreceived :
      (first :: payload ++ [received] ++ [last]).getD (payload.length + 1) 0 = received := by
    simp [List.getD_eq_getElem?_getD]
  have hpayload :
      ((first :: payload ++ [received] ++ [last]).drop 1).take (payload.length + 1 - 1) =
        payload := by
    simp
  have hinner : ((first :: payload ++ [received] ++ [last]).drop 1).dropLast =
      payload ++ [received] := List.dropLast_concat
  rw [hlength, byteAt_eq (by omega), Run.ok_bind, lift_ite]
  refine ite_congr rfl (fun _ => rfl) fun _ => ?_
  rw [minus_eq (by omega), Run.ok_bind, byteAt_eq (by omega), Run.ok_bind, List.getLastD_concat,
    show payload.length + 3 - 1 = payload.length + 2 from rfl, hlast, lift_ite]
  refine ite_congr rfl (fun _ => rfl) fun _ => ?_
  rw [minus_eq (by omega), Run.ok_bind, slice_eq (by omega) (by omega), Run.ok_bind, Run.ok_bind,
    byteAt_eq (by omega), Run.ok_bind, show payload.length + 3 - 2 = payload.length + 1 from rfl,
    hreceived, hpayload, hinner]
  dsimp only
  rw [List.dropLast_concat, List.getLastD_concat]
  rw [hlength] at hshort
  rcases payload with _ | ⟨command, _ | ⟨p, _ | ⟨q, _ | ⟨n, data⟩⟩⟩⟩
  · exact absurd (by simp) hshort
  · exact absurd (by simp) hshort
  · exact absurd (by simp) hshort
  · exact absurd (by simp) hshort
  · rw [readProx_eq]
    dsimp only
    rw [lift_ite, lift_ite]
    rfl

theorem decodeProx_eq (frame : Bytes) : decodeProx frame = lifted (Codec.decode frame) := by
  change step (openProx frame) = lifted (Coding.ofExcept (Prox.openFrame frame))
  rw [openProx_eq, step_lift]

def openAxess (frame : Bytes) : Try FrameError Answer :=
  match splitLast frame with
  | none => report (.tooShort 1 0)
  | some (last, body) => if last = cr then return ⟨body, 0⟩ else report (.badTerminator cr last)

def decodeAxess (frame : Bytes) : Opening Axess.Framer Answer := step (openAxess frame)

theorem openAxess_eq (frame : Bytes) : openAxess frame = lift (Axess.openFrame frame) := by
  unfold openAxess splitLast Axess.openFrame
  cases frame.getLast? with
  | none => rfl
  | some last =>
    dsimp only
    rw [lift_ite]
    rfl

theorem decodeAxess_eq (frame : Bytes) : decodeAxess frame = lifted (Codec.decode frame) := by
  change step (openAxess frame) = lifted (Coding.ofExcept (Axess.openFrame frame))
  rw [openAxess_eq, step_lift]

def openPromag (frame : Bytes) : Try FrameError Answer :=
  match frame.head? with
  | none => report (.tooShort 1 0)
  | some first =>
    if first = bel then return ⟨[], 0⟩
    else if first = esc then report (.status (.promag (frame[1]?.getD 0)))
    else if first = stx then do
      match splitLast (← slice frame 1 frame.length) with
      | none => report (.tooShort 2 1)
      | some (last, body) => if last = cr then return ⟨body, 0⟩ else report (.badTerminator cr last)
    else report (.badMarker stx first)

def decodePromag (frame : Bytes) : Opening Promag.Framer Answer := step (openPromag frame)

theorem openPromag_eq (frame : Bytes) : openPromag frame = lift (Promag.openFrame frame) := by
  cases frame with
  | nil => rfl
  | cons first rest =>
    have hslice : (slice (first :: rest) 1 (first :: rest).length : Try FrameError Bytes) =
        .ok rest := slice_rest (Nat.le_add_left _ _)
    unfold openPromag Promag.openFrame
    dsimp only [List.head?_cons]
    rw [lift_ite]
    refine ite_congr rfl (fun _ => rfl) fun _ => ?_
    rw [lift_ite]
    refine ite_congr rfl (fun _ => ?_) fun _ => ?_
    · cases rest with
      | nil => rfl
      | cons code rest => rfl
    · rw [lift_ite, ite_not, hslice, Run.ok_bind]
      refine ite_congr rfl (fun _ => ?_) fun _ => rfl
      unfold splitLast
      cases rest.getLast? with
      | none => rfl
      | some last =>
        dsimp only
        rw [lift_ite]
        rfl

theorem decodePromag_eq (frame : Bytes) : decodePromag frame = lifted (Codec.decode frame) := by
  change step (openPromag frame) = lifted (Coding.ofExcept (Promag.openFrame frame))
  rw [openPromag_eq, step_lift]

end CardReader.Access
