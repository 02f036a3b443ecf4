import CardReader.Proofs.Run
import CardReader.Proofs.Stid.Peer

namespace CardReader.Stid

namespace Framer

variable {f : Framer} {hmacKey : Bytes} {aesKey : Block}

def initial (f : Framer) : Except SessionError Block :=
  match f.chained with
  | some block => .ok block
  | none => (drawNonce f.nonces).1

def nextNonces (f : Framer) : Nonces :=
  match f.chained with
  | some _ => f.nonces
  | none => (drawNonce f.nonces).2

def cipherFrom (message : Bytes) (start : Block) : Coding Framer Bytes := do
  let key ← ofSession (← get).keys.aesKey
  let sealed := Cbc.encipher key start message
  modify fun f => { f with chained := (Cbc.lastBlock? sealed).or f.chained }
  return sealed ++ start.toList

theorem cipher_run (message : Bytes) (f : Framer) :
    cipher message f =
      (ofSession f.initial >>= cipherFrom message) { f with nonces := f.nextNonces } := by
  rcases f with ⟨_, _, _, _, _, _, _ | block, _, _⟩
  · rfl
  · rfl

theorem cipher_armed (hk : f.keys.aes = some aesKey) {start : Block} (hi : f.initial = .ok start)
    (plain : Bytes) (hp : plain ≠ []) :
    cipher plain f = .ok (Cbc.encipher aesKey start plain ++ start.toList)
      { f with
        chained := Cbc.lastBlock? (Cbc.encipher aesKey start plain)
        nonces := f.nextNonces } := by
  obtain ⟨last, hlast, -⟩ := Cbc.lastBlock?_encipher aesKey start plain hp
  rw [cipher_run, hi, ofSession, Run.pure_bind_run, cipherFrom, Run.get_bind_run,
    Keys.aesKey_eq hk]
  simp only [ofSession, hlast, Run.pure_bind_run, Run.modify_bind_run, Option.some_or]
  rfl

theorem addSignature_armed (hk : f.keys.hmac = some hmacKey) (message : Bytes) :
    addSignature message f = .ok (message ++ (Sha1.mac hmacKey message).take 10) f := by
  rw [addSignature, Run.get_bind_run, Keys.hmacKey_eq hk]
  rfl

/-- A host after it protected a message. -/
def advanced (f : Framer) (aesKey start : Block) (message : Bytes) : Framer :=
  { f with
    chained := Peer.chain f aesKey start message
    nonces := if f.mode.isCiphered then f.nextNonces else f.nonces }

theorem hide_armed (h : f.Armed hmacKey aesKey) {start : Block}
    (hi : f.mode.isCiphered → f.initial = .ok start) (plain : Bytes) (hp : plain ≠ []) :
    (if f.mode.isCiphered then cipher plain else pure plain) f =
      .ok (Peer.conceal f aesKey start plain) (f.advanced aesKey start plain) := by
  by_cases hc : f.mode.isCiphered
  · rw [if_pos hc, Peer.conceal, if_pos hc, advanced, Peer.chain, if_pos hc, if_pos hc]
    exact cipher_armed (h.aes_held hc) (hi hc) plain hp
  · rw [if_neg hc, Peer.conceal, if_neg hc, advanced, Peer.chain, if_neg hc, if_neg hc]
    rfl

theorem countersign_armed (h : f.Armed hmacKey aesKey) (g : Framer) (hg : g.keys = f.keys)
    (body : Bytes) :
    (if f.mode.isSigned then addSignature body else pure body) g =
      .ok (Peer.countersign f hmacKey body) g := by
  by_cases hs : f.mode.isSigned
  · rw [if_pos hs, Peer.countersign, if_pos hs]
    exact addSignature_armed (by rw [hg]; exact h.hmac_held hs) body
  · rw [if_neg hs, Peer.countersign, if_neg hs]
    rfl

theorem protect_eq (mode : Mode) (code : UInt16) (data : Bytes) (hd : data.length ≤ 65535) :
    protect mode code data =
      (get >>= fun f =>
        (if mode.isCiphered then cipher (Peer.request f.type code data)
          else pure (Peer.request f.type code data)) >>= fun hidden =>
        if mode.isSigned then addSignature hidden else pure hidden) := by
  unfold protect
  rw [if_neg (by rw [lengthLimit]; omega)]
  by_cases hc : mode.isCiphered
  · simp only [if_pos hc]
    rfl
  · simp only [if_neg hc]
    rfl

theorem protect_armed (h : f.Armed hmacKey aesKey) {start : Block}
    (hi : f.mode.isCiphered → f.initial = .ok start) (code : UInt16) (data : Bytes)
    (hd : data.length ≤ 65535) :
    protect f.mode code data f =
      .ok (Peer.protect f hmacKey aesKey start (Peer.request f.type code data))
        (f.advanced aesKey start (Peer.request f.type code data)) := by
  have hp : Peer.request f.type code data ≠ [] := by simp [Peer.request]
  rw [protect_eq f.mode code data hd, Run.get_bind_run, Run.bind_ok (hide_armed h hi _ hp)]
  exact countersign_armed h (f.advanced aesKey start (Peer.request f.type code data)) rfl _

theorem protect_too_large (mode : Mode) (code : UInt16) (data : Bytes) (hd : 65535 < data.length) :
    protect mode code data f = .error (.payloadTooLarge data.length 65535) f := by
  rw [protect, if_pos (by rw [lengthLimit]; omega)]
  rfl

theorem encode_eq (code : UInt16) (data : Bytes) :
    encode (command code data) f =
      (protect f.mode code data >>= fun message =>
        if lengthLimit < message.length then throw (.payloadTooLarge message.length lengthLimit)
        else get >>= fun g => pure (enframe g.control f.mode message))
          { f with lastCode := code } := by
  have hw := Bytes.word_high_low code
  simp only [encode, command, Bytes.bigEndian, List.cons_append, List.nil_append, hw]
  rfl

/-- What a reader finds in the frame of a command, and where it leaves the host: a frame of exact
length, a valid signature, and the command under the initial value at the end. -/
structure Understood (f : Framer) (hmacKey : Bytes) (aesKey : Block) (code : UInt16) (data : Bytes)
    (raw message body : Bytes) (after : Framer) : Prop where
  found : ∀ rest, Cut.ofHead .stidStr (raw ++ rest) = .frame raw.length
  framed : raw = Peer.frame f message
  signed : f.mode.isSigned → message = body ++ (Sha1.mac hmacKey body).take 10
  unsigned : ¬ f.mode.isSigned → message = body
  ciphered : f.mode.isCiphered → ∃ (hidden : Bytes) (start : Block) (zeros : Nat),
    body = hidden ++ start.toList ∧
    (∀ block, f.chained = some block → start = block) ∧
    (f.chained = none → (drawNonce f.nonces).1 = .ok start) ∧
    Cbc.decrypt aesKey.toList start.toList hidden =
      .ok (Peer.request f.type code data ++ List.replicate zeros 0) ∧
    zeros < 16 ∧
    after.chained.map Block.toList = some (hidden.drop (hidden.length - 16))
  unciphered : ¬ f.mode.isCiphered →
    body = Peer.request f.type code data ∧ after.chained = f.chained
  kept : after = { f with lastCode := code, chained := after.chained, nonces := after.nonces }

/-- A frame of the protected request is one that the reader understands. -/
theorem understood_frame {start : Block} (hi : f.mode.isCiphered → f.initial = .ok start)
    (code : UInt16) (data : Bytes)
    (hm : (Peer.protect f hmacKey aesKey start (Peer.request f.type code data)).length ≤ 65535) :
    Understood f hmacKey aesKey code data
      (Peer.frame f (Peer.protect f hmacKey aesKey start (Peer.request f.type code data)))
      (Peer.protect f hmacKey aesKey start (Peer.request f.type code data))
      (Peer.conceal f aesKey start (Peer.request f.type code data))
      { f.advanced aesKey start (Peer.request f.type code data) with lastCode := code } where
  found rest := Peer.ofHead_frame f _ rest hm
  framed := rfl
  signed hs := by rw [Peer.protect, Peer.countersign, if_pos hs]
  unsigned hs := by rw [Peer.protect, Peer.countersign, if_neg hs]
  ciphered hc := by
    have hp : Peer.request f.type code data ≠ [] := by simp [Peer.request]
    have hstart := hi hc
    refine ⟨Cbc.encipher aesKey start (Peer.request f.type code data), start,
      Block.padding (Peer.request f.type code data).length, ?_, ?_, ?_, ?_, ?_, ?_⟩
    · rw [Peer.conceal, if_pos hc]
    · intro block hblock
      rw [initial, hblock] at hstart
      exact (Except.ok.inj hstart).symm
    · intro hnone
      rw [initial, hnone] at hstart
      exact hstart
    · exact Cbc.decrypt_encipher aesKey start _
    · exact Block.padding_lt _
    · exact Peer.chain_ciphered hc aesKey start _ hp
  unciphered hc := by
    constructor
    · rw [Peer.conceal, if_neg hc]
    · exact Peer.chain_plain hc aesKey start _
  kept := rfl

/-- A chained block or a nonce is all that a cipher needs to start. -/
theorem initial_exists
    (hi : f.mode.isCiphered → f.chained.isSome ∨ ∃ nonce, (drawNonce f.nonces).1 = .ok nonce) :
    ∃ start, f.mode.isCiphered → f.initial = .ok start := by
  by_cases hc : f.mode.isCiphered
  · cases hch : f.chained with
    | some block =>
      refine ⟨block, fun _ => ?_⟩
      rw [initial, hch]
    | none =>
      obtain hsome | ⟨nonce, hnonce⟩ := hi hc
      · rw [hch] at hsome
        contradiction
      · refine ⟨nonce, fun _ => ?_⟩
        rw [initial, hch]
        exact hnonce
  · exact ⟨.zero, fun h => absurd h hc⟩

theorem length_request (type : CommandType) (code : UInt16) (data : Bytes) :
    (Peer.request type code data).length = data.length + 8 := by
  simp [Peer.request, Bytes.bigEndian]

/-- A host with its keys frames every command that fits once it is protected. -/
theorem encode_armed (h : f.Armed hmacKey aesKey) {start : Block}
    (hi : f.mode.isCiphered → f.initial = .ok start) (code : UInt16) (data : Bytes)
    (hd : data.length ≤ 65535) :
    encode (command code data) f =
      if 65535 < Peer.protectedSize f (data.length + 8) then
        .error (.payloadTooLarge (Peer.protectedSize f (data.length + 8)) 65535)
          { f.advanced aesKey start (Peer.request f.type code data) with lastCode := code }
      else
        .ok (Peer.frame f (Peer.protect f hmacKey aesKey start (Peer.request f.type code data)))
          { f.advanced aesKey start (Peer.request f.type code data) with lastCode := code } := by
  have hg : Armed { f with lastCode := code } hmacKey aesKey :=
    ⟨h.address_le, h.hmac_held, h.aes_held⟩
  have hp := protect_armed hg hi code data hd
  have hl := Peer.length_protect f hmacKey aesKey start (Peer.request f.type code data)
  rw [length_request] at hl
  rw [encode_eq, Run.bind_ok hp, ← hl]
  by_cases hm : 65535 < (Peer.protect f hmacKey aesKey start
      (Peer.request f.type code data)).length
  · rw [if_pos hm]
    exact congrFun (if_pos hm) _
  · rw [if_neg hm, ← Peer.enframe_eq]
    exact congrFun (if_neg hm) _

/-- A command is framed exactly when it fits, and then a reader understands it, in every mode. -/
theorem encode_command (h : f.Armed hmacKey aesKey)
    (hi : f.mode.isCiphered → f.chained.isSome ∨ ∃ nonce, (drawNonce f.nonces).1 = .ok nonce)
    (code : UInt16) (data : Bytes) :
    (data.length ≤ 65535 ∧ Peer.protectedSize f (data.length + 8) ≤ 65535 →
      ∃ raw message body after, encode (command code data) f = .ok raw after ∧
        Understood f hmacKey aesKey code data raw message body after) ∧
    (¬ (data.length ≤ 65535 ∧ Peer.protectedSize f (data.length + 8) ≤ 65535) →
      ∃ size after, 65535 < size ∧
        encode (command code data) f = .error (.payloadTooLarge size 65535) after) := by
  obtain ⟨start, hstart⟩ := initial_exists hi
  constructor
  · intro ⟨hd, hm⟩
    have henc := encode_armed h hstart code data hd
    rw [if_neg (by omega)] at henc
    refine ⟨_, _, _, _, henc, understood_frame hstart code data ?_⟩
    rw [Peer.length_protect, length_request]
    exact hm
  · intro hfit
    by_cases hd : data.length ≤ 65535
    · have henc := encode_armed h hstart code data hd
      rw [if_pos (by omega)] at henc
      exact ⟨_, _, by omega, henc⟩
    · have hp := protect_too_large (f := { f with lastCode := code }) f.mode code data (by omega)
      refine ⟨data.length, { f with lastCode := code }, by omega, ?_⟩
      rw [encode_eq, Run.bind_error hp]

theorem encode_command_guarded :
    ∃ raw message body after, encode (command 0x0003 [0x01, 0x2A]) guarded = .ok raw after ∧
      Understood guarded [0x0A, 0x0B] .zero 0x0003 [0x01, 0x2A] raw message body after :=
  (encode_command armed_guarded (fun _ => .inl rfl) 0x0003 [0x01, 0x2A]).1 (by decide)

end Framer

end CardReader.Stid
