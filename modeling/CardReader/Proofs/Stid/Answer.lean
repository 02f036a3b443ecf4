import CardReader.Proofs.Bytes.Cursor
import CardReader.Proofs.Stid.Peer

namespace CardReader.Stid

namespace Status

theorem readerStatus?_code (code : UInt8) (s : Status) (h : readerStatus? code = some s) :
    s.code = code := by
  have all : ∀ c : BitVec 8,
      (readerStatus? (UInt8.ofBitVec c)).all (fun s => s.code == UInt8.ofBitVec c) = true := by
    decide +kernel
  have hc := all code.toBitVec
  change (readerStatus? code).all (fun s => s.code == code) = true at hc
  rw [h] at hc
  simpa using hc

/-- Every status other than success has a meaning, and keeps its code. -/
theorem ofCode?_eq_some (type : CommandType) (code : UInt8) (hc : code ≠ 0) :
    ∃ s, ofCode? type code = some s ∧ s.code = code := by
  have own : ((readerStatus? code).getD (.unknown type code)).code = code := by
    cases h : readerStatus? code with
    | none => rfl
    | some s => exact readerStatus?_code code s h
  have chip : (if (chipText? type code).isSome then Status.chip type code
      else .unknown type code).code = code := by
    split <;> rfl
  unfold ofCode?
  rw [if_neg hc]
  cases type with
  | mifareClassic => exact ⟨_, rfl, chip⟩
  | desfire => exact ⟨_, rfl, chip⟩
  | reader => exact ⟨_, rfl, own⟩
  | mifarePlus => exact ⟨_, rfl, own⟩
  | reserved => exact ⟨_, rfl, own⟩
  | ultralightC => exact ⟨_, rfl, own⟩
  | rfidChip => exact ⟨_, rfl, own⟩

end Status

namespace Framer

variable {f : Framer} {hmacKey : Bytes} {aesKey : Block}

theorem checkSignature_signed (hk : f.keys.hmac = some hmacKey) (body : Bytes) :
    checkSignature (body ++ (Sha1.mac hmacKey body).take 10) f = .ok body f := by
  have hs : ((Sha1.mac hmacKey body).take 10).length = signatureLength :=
    length_sign hmacKey body
  have hv : verify hmacKey body ((Sha1.mac hmacKey body).take 10) = true :=
    verify_sign hmacKey body
  have hl : (body ++ (Sha1.mac hmacKey body).take 10).length - signatureLength = body.length := by
    rw [List.length_append, hs, Nat.add_sub_cancel]
  rw [checkSignature, hl, List.take_left, List.drop_left,
    if_neg (by rw [List.length_append, hs]; omega)]
  simp [Keys.hmacKey_eq hk, ofSession, hv]

/-- What the reader enciphered is deciphered with zeros up to whole blocks. -/
theorem decipher_enciphered (hk : f.keys.aes = some aesKey) (initial : Block) (plain : Bytes)
    (hp : plain ≠ []) :
    decipher (Cbc.encipher aesKey initial plain ++ initial.toList) f =
      .ok (Block.padded plain)
        { f with chained := Cbc.lastBlock? (Cbc.encipher aesKey initial plain) } := by
  have hi : initial.toList.length = Block.size := Block.length_toList initial
  have hl : (Cbc.encipher aesKey initial plain ++ initial.toList).length - Block.size =
      (Cbc.encipher aesKey initial plain).length := by
    rw [List.length_append, hi, Nat.add_sub_cancel]
  obtain ⟨last, hlast, -⟩ := Cbc.lastBlock?_encipher aesKey initial plain hp
  rw [decipher, hl, List.take_left, List.drop_left,
    if_neg (by rw [List.length_append, hi]; omega)]
  simp only [Keys.aesKey_eq hk, ofSession, ofCipher, Cbc.decrypt_encipher, hlast, Run.get_bind_run,
    Run.pure_bind_run, Run.modify_bind_run, Option.some_or]
  rfl

/-- The answer stands in front of the padding, which is not looked at. -/
theorem readAnswer_answer (type : CommandType) (code : UInt16) (data : Bytes) (status : UInt8)
    (rest : Bytes) (hd : data.length ≤ 65535) :
    Cursor.run (readAnswer type code) (Peer.answer type code data status ++ rest) =
      match Status.ofCode? type status with
      | some s => .error (.status (.stid s))
      | none => .ok ⟨data, status⟩ := by
  have parts : Peer.answer type code data status ++ rest = Bytes.bigEndian code ++
      (Bytes.bigEndian (UInt16.ofNat data.length) ++ (data ++ (type.code :: status :: rest))) := by
    simp [Peer.answer]
  have length : (UInt16.ofNat data.length).toNat = data.length := by
    rw [UInt16.toNat_ofNat', Nat.mod_eq_of_lt (by omega)]
  rw [parts, Cursor.run, Cursor.start, readAnswer, Run.bind_ok (Cursor.bigEndian_append _ _ _),
    if_neg (by simp)]
  beta_reduce
  rw [Run.bind_ok (Cursor.bigEndian_append _ _ _), length, Run.bind_ok (Cursor.take_append _ _ _),
    Run.bind_ok (Cursor.byte_cons _ _ _), if_neg (by simp)]
  beta_reduce
  rw [Run.bind_ok (Cursor.byte_cons _ _ _)]
  cases Status.ofCode? type status with
  | some s => rfl
  | none => rfl

theorem open_countersign (h : f.Armed hmacKey aesKey) (body : Bytes) :
    (if f.mode.isSigned then checkSignature (Peer.countersign f hmacKey body)
      else pure (Peer.countersign f hmacKey body)) f = .ok body f := by
  by_cases hs : f.mode.isSigned
  · rw [if_pos hs, Peer.countersign, if_pos hs]
    exact checkSignature_signed (h.hmac_held hs) body
  · rw [if_neg hs, Peer.countersign, if_neg hs]
    rfl

theorem open_conceal (h : f.Armed hmacKey aesKey) (initial : Block) (plain : Bytes)
    (hp : plain ≠ []) :
    ∃ zeros, (if f.mode.isCiphered then decipher (Peer.conceal f aesKey initial plain)
      else pure (Peer.conceal f aesKey initial plain)) f =
        .ok (plain ++ zeros) { f with chained := Peer.chain f aesKey initial plain } := by
  by_cases hc : f.mode.isCiphered
  · refine ⟨List.replicate (Block.padding plain.length) 0, ?_⟩
    rw [if_pos hc, Peer.conceal, if_pos hc, Peer.chain, if_pos hc]
    exact decipher_enciphered (h.aes_held hc) initial plain hp
  · refine ⟨[], ?_⟩
    rw [if_neg hc, Peer.conceal, if_neg hc, Peer.chain, if_neg hc, List.append_nil]
    rfl

/-- One layer for each protection of the mode, and then the answer. -/
theorem unprotect_eq (mode : Mode) (message : Bytes) :
    unprotect mode message =
      ((if mode.isSigned then checkSignature message else pure message) >>= fun body =>
        (if mode.isCiphered then decipher body else pure body) >>= fun plain =>
          get >>= fun f =>
            Coding.ofExcept (Cursor.run (readAnswer f.type f.lastCode) plain)) := by
  unfold unprotect
  by_cases hs : mode.isSigned
  · by_cases hc : mode.isCiphered
    · simp only [if_pos hs, if_pos hc]
    · simp only [if_pos hs, if_neg hc]
  · by_cases hc : mode.isCiphered
    · simp only [if_neg hs, if_pos hc]
    · simp only [if_neg hs, if_neg hc]

/-- The host takes off the layers that the reader put on, in the opposite order, and moves its chain
on. -/
theorem unprotect_protect (h : f.Armed hmacKey aesKey) (initial : Block) (data : Bytes)
    (status : UInt8) (hd : data.length ≤ 65535) :
    unprotect f.mode
        (Peer.protect f hmacKey aesKey initial (Peer.answer f.type f.lastCode data status)) f =
      Coding.ofExcept
        (match Status.ofCode? f.type status with
          | some s => .error (.status (.stid s))
          | none => .ok ⟨data, status⟩)
        { f with
          chained := Peer.chain f aesKey initial (Peer.answer f.type f.lastCode data status) } := by
  have hne : Peer.answer f.type f.lastCode data status ≠ [] := by
    simp [Peer.answer, Bytes.bigEndian]
  obtain ⟨zeros, hzeros⟩ := open_conceal h initial _ hne
  rw [unprotect_eq, Peer.protect, Run.bind_ok (open_countersign h _), Run.bind_ok hzeros,
    Run.get_bind_run]
  dsimp only
  rw [readAnswer_answer f.type f.lastCode data status zeros hd]

/-- What a reader answers to the last command is what the host reads, in every mode. -/
theorem decode_answer {code : UInt16} (h : f.Armed hmacKey aesKey) (hcode : f.lastCode = code)
    (initial : Block) (data : Bytes) (status : UInt8)
    (hm : (Peer.protect f hmacKey aesKey initial
      (Peer.answer f.type code data status)).length ≤ 65535) :
    ∃ next : Option Block,
      (f.mode.isCiphered → next.map Block.toList =
        some ((Cbc.encipher aesKey initial (Peer.answer f.type code data status)).drop
          ((Cbc.encipher aesKey initial (Peer.answer f.type code data status)).length - 16))) ∧
      (¬ f.mode.isCiphered → next = f.chained) ∧
      (status = 0 →
        decode (Peer.frame f (Peer.protect f hmacKey aesKey initial
          (Peer.answer f.type code data status))) f = .ok ⟨data, 0⟩ { f with chained := next }) ∧
      (status ≠ 0 → ∃ s, Status.ofCode? f.type status = some s ∧ s.code = status ∧
        decode (Peer.frame f (Peer.protect f hmacKey aesKey initial
          (Peer.answer f.type code data status))) f =
            .error (.status (.stid s)) { f with chained := next }) := by
  subst hcode
  have hne : Peer.answer f.type f.lastCode data status ≠ [] := by
    simp [Peer.answer, Bytes.bigEndian]
  have hd : data.length ≤ 65535 := by
    have hle := Peer.le_protectedSize f (Peer.answer f.type f.lastCode data status).length
    rw [Peer.length_protect] at hm
    have hlen : data.length ≤ (Peer.answer f.type f.lastCode data status).length := by
      simp only [Peer.answer, List.length_append]
      omega
    omega
  have hrun : ∀ frame, f.deframe frame = .ok (Peer.protect f hmacKey aesKey initial
      (Peer.answer f.type f.lastCode data status)) → decode frame f = unprotect f.mode
        (Peer.protect f hmacKey aesKey initial (Peer.answer f.type f.lastCode data status)) f := by
    intro frame hframe
    rw [decode, Run.get_bind_run, hframe]
    rfl
  have hopen := hrun _ (Peer.deframe_frame f _ hm h.address_le)
  rw [unprotect_protect h initial data status hd] at hopen
  refine ⟨Peer.chain f aesKey initial (Peer.answer f.type f.lastCode data status), ?_, ?_, ?_, ?_⟩
  · intro hc
    exact Peer.chain_ciphered hc aesKey initial _ hne
  · intro hc
    exact Peer.chain_plain hc aesKey initial _
  · intro hs
    subst hs
    exact hopen
  · intro hs
    obtain ⟨s, hsome, hcode⟩ := Status.ofCode?_eq_some f.type status hs
    refine ⟨s, hsome, hcode, ?_⟩
    rw [hopen, hsome]
    rfl

theorem decode_answer_guarded :
    guarded.lastCode = 0x0008 ∧ ∃ next : Option Block,
      decode (Peer.frame guarded (Peer.protect guarded [0x0A, 0x0B] .zero .zero
        (Peer.answer .reader 0x0008 [0x2A, 0x05] 0))) guarded =
          .ok ⟨[0x2A, 0x05], 0⟩ { guarded with chained := next } := by
  obtain ⟨next, -, -, hok, -⟩ := decode_answer armed_guarded (Eq.refl 0x0008) .zero
    [0x2A, 0x05] 0 (by rw [Peer.length_protect]; decide)
  exact ⟨rfl, next, hok rfl⟩

end Framer

end CardReader.Stid
