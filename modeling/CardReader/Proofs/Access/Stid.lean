import CardReader.Proofs.Access.Frames
import CardReader.Stid.Framer

namespace CardReader.Access

open Stid Framer

theorem lift_guarded {ε α : Type} {c : Prop} [Decidable c] (e : ε) (f : PUnit → Except ε α) :
    lift (if c then (throw e : Except ε PUnit) >>= f else f ⟨⟩) =
      if c then report e else lift (f ⟨⟩) := lift_ite _ _

def lastBlock {ε : Type} (data : Bytes) : Try ε (Option Block) :=
  if data.length < Block.size then return none
  else do
    let part ← slice data (data.length - Block.size) data.length
    return Block.ofList? part

/-- Checks the signature at the end of a message and takes it off. -/
def openSigned (message : Bytes) : Opening Framer Bytes := do
  if message.length < signatureLength then
    throw (.reported (.tooShort signatureLength message.length))
  let (body, signature) ← step (do split message (← minus message.length signatureLength))
  let f ← get
  let key ← lifted (ofSession f.keys.hmacKey)
  if ¬ verify key body signature then throw (.reported .signatureMismatch)
  return body

/-- Deciphers a message with the initial value at its end. -/
def openCiphered (message : Bytes) : Opening Framer Bytes := do
  if message.length < Block.size then throw (.reported (.tooShort Block.size message.length))
  let (sealed, initial) ← step (do split message (← minus message.length Block.size))
  let f ← get
  let key ← lifted (ofSession f.keys.aesKey)
  let plain ← lifted (ofSession (ofCipher (Cbc.decrypt key.toList initial sealed)))
  let last ← step (lastBlock sealed)
  modify fun f => { f with chained := last.or f.chained }
  return plain

def readStid (type : CommandType) (code : UInt16) : Place.Read Answer := do
  let acknowledged ← Place.bigEndian
  if acknowledged ≠ code then
    throw (.reported (.unexpectedAnswer (.acknowledged acknowledged code)))
  let length ← Place.bigEndian
  let data ← Place.take length.toNat
  let answered ← Place.byte
  if answered ≠ type.code then
    throw (.reported (.unexpectedAnswer (.statusType answered type.code)))
  let status ← Place.byte
  match Status.ofCode? type status with
  | some s => throw (.reported (.status (.stid s)))
  | none => return ⟨data, status⟩

def openMessage (mode : Mode) (message : Bytes) : Opening Framer Answer := do
  let body ← if mode.isSigned then openSigned message else pure message
  let plain ← if mode.isCiphered then openCiphered body else pure body
  let f ← get
  step (Place.run (readStid f.type f.lastCode) plain)

/-- Checks the end of a frame with a message of `size` bytes and takes the message out. -/
def closeStid (frame : Bytes) (size : Nat) : Try FrameError Bytes := do
  let inner ← slice frame 1 (5 + size)
  let expected := Checksum.crc Checksum.seedStid inner
  let hi ← byteAt frame (5 + size)
  let lo ← byteAt frame (6 + size)
  let received := Bytes.word hi lo
  if expected ≠ received then report (.checksumMismatch expected received)
  else slice frame 5 (5 + size)

def openStid (f : Framer) (frame : Bytes) : Try FrameError Bytes :=
  if frame.length < overhead then report (.tooShort overhead frame.length)
  else do
    let marker ← byteAt frame 0
    if marker ≠ stx then report (.badMarker stx marker)
    else
      let hi ← byteAt frame 1
      let lo ← byteAt frame 2
      let size := (Bytes.word hi lo).toNat
      if frame.length < size + overhead then
        let actual ← minus frame.length overhead
        report (.lengthMismatch size actual)
      else
        let control ← byteAt frame 3
        let wiring := Wiring.ofControl control
        let address := (control &&& 0xFE) >>> 1
        if wiring ≠ f.wiring then report (.unexpectedAnswer (.wiring wiring f.wiring))
        else if wiring = .rs485 ∧ address ≠ f.address then
          report (.unexpectedAnswer (.lineAddress address f.address))
        else
          let mode ← byteAt frame 4
          if ¬ f.mode.isReserved ∧ mode ≠ f.mode.bits then
            report (.unexpectedAnswer (.mode mode f.mode))
          else closeStid frame size

def decodeStid (frame : Bytes) : Opening Framer Answer := do
  let f ← get
  let message ← step (openStid f frame)
  openMessage f.mode message

theorem lastBlock_eq {ε : Type} (data : Bytes) :
    (lastBlock data : Try ε (Option Block)) = .ok (Cbc.lastBlock? data) := by
  unfold lastBlock Cbc.lastBlock?
  by_cases h : data.length < Block.size
  · rw [if_pos h, if_pos h]
    rfl
  · rw [if_neg h, if_neg h, slice_rest (Nat.sub_le _ _)]
    rfl

/-- A message that is long enough has its last `n` bytes. -/
theorem splitEnd_eq {message : Bytes} {n : Nat} (h : ¬ message.length < n) :
    (step (do split message (← minus message.length n)) : Opening Framer (Bytes × Bytes)) =
      pure (message.take (message.length - n), message.drop (message.length - n)) := by
  rw [minus_eq (Nat.le_of_not_lt h), Run.ok_bind, split_eq (Nat.sub_le _ _)]
  rfl

theorem openSigned_eq (message : Bytes) : openSigned message = lifted (checkSignature message) := by
  unfold openSigned checkSignature
  rw [lifted_ite]
  refine ite_congr rfl (fun _ => rfl) fun hlong => ?_
  rw [splitEnd_eq hlong, pure_bind]
  dsimp only
  rw [lifted_bind, lifted_get]
  refine congrArg _ (funext fun f => ?_)
  rw [lifted_bind]
  refine congrArg _ (funext fun key => ?_)
  rw [lifted_ite]
  rfl

theorem openCiphered_eq (message : Bytes) : openCiphered message = lifted (decipher message) := by
  unfold openCiphered decipher
  rw [lifted_ite]
  refine ite_congr rfl (fun _ => rfl) fun hlong => ?_
  rw [splitEnd_eq hlong, pure_bind]
  dsimp only
  rw [lifted_bind, lifted_get]
  refine congrArg _ (funext fun f => ?_)
  rw [lifted_bind]
  refine congrArg _ (funext fun key => ?_)
  rw [lifted_bind]
  refine congrArg _ (funext fun plain => ?_)
  rw [lastBlock_eq]
  rfl

theorem follows_readStid (type : CommandType) (code : UInt16) :
    Place.Follows (readStid type code) (readAnswer type code) := by
  refine Place.follows_bigEndian.bind fun acknowledged => Place.Follows.guarded _ ?_
  refine Place.follows_bigEndian.bind fun length => ?_
  refine (Place.follows_take _).bind fun data => ?_
  refine Place.follows_byte.bind fun answered => Place.Follows.guarded _ ?_
  refine Place.follows_byte.bind fun status => ?_
  cases Status.ofCode? type status with
  | some s => exact .throw _
  | none => exact .pure _

/-- A layer of protection that may be missing, and what comes under it. -/
theorem layer_eq {c : Prop} [Decidable c] {x : Opening Framer Bytes} {y : Coding Framer Bytes}
    {f : Bytes → Opening Framer Answer} {g : Bytes → Coding Framer Answer} (message : Bytes)
    (hx : x = lifted y) (hf : ∀ body, f body = lifted (g body)) :
    (if c then x >>= f else pure message >>= f) =
      lifted (if c then y >>= g else pure message >>= g) := by
  rw [lifted_ite, lifted_bind, lifted_bind, ← hx, funext hf]
  rfl

theorem openMessage_eq (mode : Mode) (message : Bytes) :
    openMessage mode message = lifted (unprotect mode message) := by
  refine layer_eq message (openSigned_eq message) fun body => ?_
  refine layer_eq body (openCiphered_eq body) fun plain => ?_
  rw [lifted_bind, lifted_get]
  refine congrArg _ (funext fun f => ?_)
  rw [(follows_readStid f.type f.lastCode).run, step_lift]

/-- Two bytes stand behind the message of a frame that is long enough. -/
theorem closeStid_eq {marker hi lo control mode : UInt8} {rest : Bytes} {size : Nat}
    (h : size + 2 ≤ rest.length) :
    closeStid (marker :: hi :: lo :: control :: mode :: rest) size =
      let expected := Checksum.crc Checksum.seedStid (hi :: lo :: control :: mode :: rest.take size)
      let received := Bytes.word (rest.getD size 0) (rest.getD (size + 1) 0)
      if expected ≠ received then report (.checksumMismatch expected received)
      else .ok (rest.take size) := by
  have hlength : (marker :: hi :: lo :: control :: mode :: rest).length = rest.length + 5 := rfl
  have hinner : ((marker :: hi :: lo :: control :: mode :: rest).drop 1).take (5 + size - 1) =
      hi :: lo :: control :: mode :: rest.take size := by
    rw [show 5 + size - 1 = size + 4 by omega]
    rfl
  have hmessage : ((marker :: hi :: lo :: control :: mode :: rest).drop 5).take (5 + size - 5) =
      rest.take size := by
    rw [Nat.add_sub_cancel_left]
    rfl
  have hfirst : (marker :: hi :: lo :: control :: mode :: rest).getD (5 + size) 0 =
      rest.getD size 0 := by
    rw [Nat.add_comm]
    rfl
  have hsecond : (marker :: hi :: lo :: control :: mode :: rest).getD (6 + size) 0 =
      rest.getD (size + 1) 0 := by
    rw [show 6 + size = (size + 1) + 5 by omega]
    rfl
  unfold closeStid
  rw [slice_eq (by omega) (by omega), hinner, Run.ok_bind, byteAt_eq (by omega), hfirst,
    Run.ok_bind, byteAt_eq (by omega), hsecond, Run.ok_bind, slice_eq (by omega) (by omega),
    hmessage]

/-- Marker, size and check are where the size says, and are only read once that many bytes are
there. -/
theorem openStid_eq (f : Framer) (frame : Bytes) : openStid f frame = lift (f.deframe frame) := by
  rcases frame with _ | ⟨marker, _ | ⟨hi, _ | ⟨lo, _ | ⟨control, _ | ⟨mode, rest⟩⟩⟩⟩⟩
  · rfl
  · rfl
  · rfl
  · rfl
  · rfl
  · have hlength : (marker :: hi :: lo :: control :: mode :: rest).length = rest.length + 5 := rfl
    have hhi : (marker :: hi :: lo :: control :: mode :: rest).getD 1 0 = hi := rfl
    have hlo : (marker :: hi :: lo :: control :: mode :: rest).getD 2 0 = lo := rfl
    unfold openStid deframe
    rw [lift_guarded]
    refine ite_congr rfl (fun _ => rfl) fun hlong => ?_
    have htrailer : 2 ≤ rest.length := by
      unfold overhead at hlong
      omega
    rw [byteAt_eq (by omega), Run.ok_bind, lift_guarded]
    refine ite_congr rfl (fun _ => rfl) fun _ => ?_
    rw [byteAt_eq (by omega), Run.ok_bind, byteAt_eq (by omega), Run.ok_bind, hhi, hlo]
    generalize (Bytes.word hi lo).toNat = size
    rw [lift_guarded, minus_eq (Nat.le_of_not_lt hlong)]
    refine ite_congr rfl (fun _ => rfl) fun hfits => ?_
    rw [byteAt_eq (by omega), Run.ok_bind, lift_guarded]
    refine ite_congr rfl (fun _ => rfl) fun _ => ?_
    rw [lift_guarded]
    refine ite_congr rfl (fun _ => rfl) fun _ => ?_
    rw [byteAt_eq (by omega), Run.ok_bind, lift_guarded]
    refine ite_congr rfl (fun _ => rfl) fun _ => ?_
    rw [closeStid_eq (by unfold overhead at hfits; omega), lift_guarded]
    rfl

theorem decodeStid_eq (frame : Bytes) : decodeStid frame = lifted (Codec.decode frame) := by
  change _ = lifted (Framer.decode frame)
  unfold decodeStid Framer.decode
  rw [lifted_bind, lifted_get]
  refine congrArg _ (funext fun f => ?_)
  rw [openStid_eq, step_lift, lifted_bind]
  refine congrArg _ (funext fun message => ?_)
  exact openMessage_eq f.mode message

end CardReader.Access
