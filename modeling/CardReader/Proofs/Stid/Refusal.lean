import CardReader.Proofs.Stid.Sealed

namespace CardReader

open Run

namespace Stid.Framer

variable {f : Framer} {code : UInt16} {data : Bytes}

/-- What is left to do with the message of a command once its cipher is applied. -/
def finish (mode : Mode) (hidden : Bytes) : Coding Framer Bytes :=
  (if mode.isSigned then addSignature hidden else pure hidden) >>= fun message =>
    if lengthLimit < message.length then throw (.payloadTooLarge message.length lengthLimit)
    else get >>= fun g => pure (enframe g.control mode message)

theorem encode_finish (hd : data.length ≤ 65535) :
    encode (command code data) f =
      ((if f.mode.isCiphered then cipher (Peer.request f.type code data)
        else pure (Peer.request f.type code data)) >>= finish f.mode)
          { f with lastCode := code } := by
  rw [encode_eq, protect_eq f.mode code data hd, bind_assoc, get_bind_run, bind_assoc]
  rfl

theorem finish_keeps {R : Framer → Framer → Prop} (hR : Closed R) (mode : Mode) (hidden : Bytes) :
    Keeps R (finish mode hidden) := by
  refine Keeps.bind hR (countersign_keeps hR mode hidden) fun message => ?_
  exact Keeps.ite (Keeps.throw hR _) (Keeps.bind hR (Keeps.get hR) fun g => Keeps.pure hR _)

/-- Failures of a host that has its message enciphered. -/
inductive Belated : FrameError → Prop where
  | unsigned : Belated (.session (.missing .hmacKey))
  | oversized (size : Nat) : Belated (.payloadTooLarge size 65535)

theorem addSignature_belated (message : Bytes) : Fails Belated (addSignature message) := by
  unfold addSignature
  refine Fails.bind Fails.get fun f => Fails.bind ?_ fun key => Fails.pure _
  cases hk : f.keys.hmac with
  | none =>
    rw [Keys.hmacKey, hk]
    exact Fails.throw .unsigned
  | some key =>
    rw [Keys.hmacKey_eq hk]
    exact Fails.pure key

theorem finish_belated (mode : Mode) (hidden : Bytes) : Fails Belated (finish mode hidden) := by
  refine Fails.bind ?_ fun message => ?_
  · exact Fails.ite (addSignature_belated hidden) (Fails.pure hidden)
  · exact Fails.ite (Fails.throw (.oversized _)) (Fails.bind Fails.get fun g => Fails.pure _)

/-- Without a key or an initial value the cipher fails, and at most a nonce is spent. -/
theorem cipher_stopped (h : ∀ key start, f.keys.aes = some key → f.initial ≠ .ok start)
    (plain : Bytes) : ∃ e, cipher plain f = .error e { f with nonces := f.nextNonces } := by
  rw [cipher_run]
  cases hstart : f.initial with
  | error cause => exact ⟨.session cause, rfl⟩
  | ok start =>
    have hkey : f.keys.aesKey = .error (.missing .aesKey) := by
      cases hk : f.keys.aes with
      | none => rw [Keys.aesKey, hk]
      | some key => exact absurd hstart (h key start hk)
    refine ⟨.session (.missing .aesKey), ?_⟩
    rw [ofSession, pure_bind_run, cipherFrom, get_bind_run, hkey]
    rfl

/-- The message of a command is enciphered under `key` from the initial value `start`, whatever
comes of it afterwards. -/
structure Enciphers (f : Framer) (data : Bytes) (key start : Block) : Prop where
  ciphered : f.mode.isCiphered
  length_le : data.length ≤ 65535
  key_eq : f.keys.aes = some key
  initial_eq : f.initial = .ok start

/-- A host after it enciphered the message of a command. -/
def enciphered (f : Framer) (code : UInt16) (data : Bytes) (key start : Block) : Framer :=
  { f with
    lastCode := code
    chained := Cbc.lastBlock? (Cbc.encipher key start (Peer.request f.type code data))
    nonces := f.nextNonces }

theorem encode_enciphers {key start : Block} (h : Enciphers f data key start) (code : UInt16) :
    ∃ hidden, encode (command code data) f =
      finish f.mode hidden (f.enciphered code data key start) := by
  have hp : Peer.request f.type code data ≠ [] := by simp [Peer.request]
  have hcipher := cipher_armed (f := { f with lastCode := code }) h.key_eq h.initial_eq _ hp
  rw [encode_finish h.length_le, if_pos h.ciphered, bind_ok hcipher]
  exact ⟨_, rfl⟩

theorem closed_chained : Closed (fun f g : Framer => g.chained = f.chained) where
  refl _ := rfl
  trans hst htu := htu.trans hst

theorem chained_encode_kept (h : ∀ key start, ¬ Enciphers f data key start) (code : UInt16) :
    (after (encode (command code data) f)).chained = f.chained := by
  by_cases hd : data.length ≤ 65535
  · -- Only the cipher moves the chain, and either it fails or there is none.
    rw [encode_finish hd]
    refine Keeps.extend (s := { f with lastCode := code }) closed_chained ?_
      (finish_keeps closed_chained f.mode)
    by_cases hc : f.mode.isCiphered
    · obtain ⟨e, hstopped⟩ := cipher_stopped (f := { f with lastCode := code })
        (fun key start hkey hstart => h key start ⟨hc, hd, hkey, hstart⟩)
        (Peer.request f.type code data)
      rw [if_pos hc, hstopped]
      rfl
    · rw [if_neg hc]
      rfl
  · have htoo := protect_too_large (f := { f with lastCode := code }) f.mode code data (by omega)
    rw [encode_eq, bind_error htoo]
    rfl

/-- A host that refused a command: its keys and its session are as before, the code of the command
is noted, and the chain has moved exactly if the refusal came after the cipher. -/
structure Refused (f : Framer) (code : UInt16) (data : Bytes) (e : FrameError) (g : Framer) :
    Prop where
  keys_eq : g.keys = f.keys
  session_eq : g.session = f.session
  lastCode_eq : g.lastCode = code
  chained_kept : (∀ key start, ¬ Enciphers f data key start) → g.chained = f.chained
  chained_moved : ∀ key start, Enciphers f data key start → Belated e ∧
    g.chained = Cbc.lastBlock? (Cbc.encipher key start (Peer.request f.type code data))

/-- A refusal comes before the cipher or after it, and leaves the chain accordingly. -/
theorem refused {e : FrameError} {g : Framer} (h : encode (command code data) f = .error e g) :
    Refused f code data e g := by
  have hkept := (encode_alike (command code data)).of_error h
  obtain ⟨chained, lastCode, nonces, rfl⟩ := hkept
  refine ⟨rfl, rfl, ?_, ?_, ?_⟩
  · have hcode := lastCode_encode code data f
    rw [h] at hcode
    exact hcode
  · intro hnone
    have hchained := chained_encode_kept hnone code
    rw [h] at hchained
    exact hchained
  · intro key start henciphers
    obtain ⟨hidden, hfinish⟩ := encode_enciphers henciphers code
    rw [h] at hfinish
    have hmoved := (finish_keeps closed_chained f.mode hidden).of_error hfinish.symm
    exact ⟨finish_belated f.mode hidden _ _ _ hfinish.symm, hmoved⟩

/-- What a refusal leaves behind: nothing at all if there was no code to read, else the code of
the command, and the last block of its message if that was enciphered before the refusal. -/
theorem encode_refused {bytes : Bytes} {e : FrameError} {g : Framer}
    (h : encode bytes f = .error e g) :
    (bytes.length < 2 ∧ e = .tooShort 2 bytes.length ∧ g = f) ∨
      ∃ code data, bytes = command code data ∧ Refused f code data e g := by
  match bytes with
  | [] =>
    injection h with he hg
    exact .inl ⟨by decide, he.symm, hg.symm⟩
  | [_] =>
    injection h with he hg
    exact .inl ⟨Nat.one_lt_two, he.symm, hg.symm⟩
  | hi :: lo :: rest =>
    rw [← command_word hi lo rest] at h ⊢
    exact .inr ⟨Bytes.word hi lo, rest, rfl, refused h⟩

/-- A host of the mode that enciphers and signs, with the key of the cipher only. -/
def halfKeyed : Framer where
  mode := Mode.signed.union .ciphered
  keys := ⟨none, some (Block.ofPrefix (List.replicate 16 0x5A))⟩
  nonces := [some (Block.ofPrefix [0xB0, 0xB1, 0xB2, 0xB3, 0xB4, 0xB5, 0xB6, 0xB7, 0xB8, 0xB9, 0xBA,
    0xBB, 0xBC, 0xBD, 0xBE, 0xBF])]

theorem encode_halfKeyed : ∃ key start,
    encode (command 0x000C [0x01]) halfKeyed =
      .error (.session (.missing .hmacKey)) (halfKeyed.enciphered 0x000C [0x01] key start) := by
  -- Key and nonce stay names here, so that nothing has to be enciphered to see the run fail.
  have hinitial : ∃ start, halfKeyed.initial = .ok start := ⟨_, rfl⟩
  obtain ⟨start, hstart⟩ := hinitial
  have henciphers : Enciphers halfKeyed [0x01] _ start := ⟨rfl, by decide, rfl, hstart⟩
  obtain ⟨hidden, hrun⟩ := encode_enciphers henciphers 0x000C
  exact ⟨_, start, hrun⟩

theorem encode_refused_halfKeyed : ∃ g,
    encode (command 0x000C [0x01]) halfKeyed = .error (.session (.missing .hmacKey)) g ∧
      ∃ code data, command 0x000C [0x01] = command code data ∧
        Refused halfKeyed code data (.session (.missing .hmacKey)) g := by
  obtain ⟨key, start, hrun⟩ := encode_halfKeyed
  exact ⟨_, hrun, (encode_refused hrun).resolve_left fun h => absurd h.1 (by decide)⟩

/-- The missing key of signatures is noticed when the code is noted and the chain has moved. -/
theorem refused_too_late : ∃ g,
    encode (command 0x000C [0x01]) halfKeyed = .error (.session (.missing .hmacKey)) g ∧
      g.lastCode ≠ halfKeyed.lastCode ∧ g.chained ≠ halfKeyed.chained := by
  obtain ⟨key, start, hrun⟩ := encode_halfKeyed
  obtain ⟨last, hlast, -⟩ :=
    Cbc.lastBlock?_encipher key start (Peer.request .reader 0x000C [0x01]) (by decide)
  refine ⟨_, hrun, by simp [enciphered, halfKeyed], ?_⟩
  change Cbc.lastBlock? _ ≠ none
  rw [show halfKeyed.type = .reader from rfl, hlast]
  exact Option.some_ne_none last

end Stid.Framer

end CardReader
