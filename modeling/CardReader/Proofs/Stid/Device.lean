import CardReader.Proofs.Channel
import CardReader.Proofs.Stid.Sealed
import CardReader.Proofs.Stid.Session

namespace CardReader.Stid

open Run Act

variable {σ α : Type}

namespace Device

/-- A device with the settings of `d₀`, and a session of which `K` holds. -/
def Kept (d₀ : Device) (K : Keys → SessionState → Prop) (d : Device) : Prop :=
  ∃ keys session chained lastCode nonces, K keys session ∧
    d = { d₀ with framer := { d₀.framer with keys, session, chained, lastCode, nonces } }

variable {d₀ d d' : Device} {K K' : Keys → SessionState → Prop} {P : Bytes → Prop}

theorem Kept.refl (h : K d.framer.keys d.framer.session) : Kept d K d :=
  ⟨d.framer.keys, d.framer.session, d.framer.chained, d.framer.lastCode, d.framer.nonces, h, rfl⟩

theorem Kept.of_session (h : Kept d₀ K d) (hK : K' d.framer.keys d.framer.session) :
    Kept d₀ K' d := by
  obtain ⟨keys, session, chained, lastCode, nonces, -, rfl⟩ := h
  exact ⟨keys, session, chained, lastCode, nonces, hK, rfl⟩

theorem Kept.alike {g : Framer} (h : Kept d₀ K d) (hg : d.framer.Alike g) :
    Kept d₀ K { d with framer := g } := by
  obtain ⟨keys, session, _, _, _, hK, rfl⟩ := h
  obtain ⟨chained, lastCode, nonces, rfl⟩ := hg
  exact ⟨keys, session, chained, lastCode, nonces, hK, rfl⟩

def Unconstrained (_ : Keys) (_ : SessionState) : Prop := True

theorem Kept.resumed (h : Kept d₀ K d) (keys : Keys) (session : SessionState)
    (chained : Option Block) : Kept d₀ Unconstrained
      { d with framer := { d.framer with keys, session, chained } } := by
  obtain ⟨_, _, _, lastCode, nonces, -, rfl⟩ := h
  exact ⟨keys, session, chained, lastCode, nonces, trivial, rfl⟩

theorem Kept.encode (h : Kept d₀ K d) (command : Bytes) :
    Kept d₀ K (after (Codec.encode command d)) := by
  rw [after_encode]
  exact h.alike (Framer.encode_alike command d.framer)

theorem Kept.decode (h : Kept d₀ K d) (frame : Bytes) :
    Kept d₀ K (after (Codec.decode frame d)) := by
  rw [after_decode]
  exact h.alike (Framer.decode_alike frame d.framer)

theorem encode_framer {command raw : Bytes} (h : Codec.encode command d = .ok raw d') :
    Framer.encode command d.framer = .ok raw d'.framer := by
  change Coding.onPart framer (fun f d => { d with framer := f }) (Framer.encode command) d =
    .ok raw d' at h
  unfold Coding.onPart at h
  cases hf : Framer.encode command d.framer with
  | ok raw' g =>
    rw [hf] at h
    injection h with hraw hd
    rw [← hraw, ← hd]
  | error e g =>
    rw [hf] at h
    contradiction

/-- A mode that is taken for a while is given back. -/
theorem under_kept {mode : Mode} {act : Act σ Device α}
    (h : Keeps (Guards (Kept (d₀.inMode mode) K) P) act) :
    Keeps (Guards (Kept d₀ K) P) (under mode act) := by
  intro b hJ
  have hin : Kept (d₀.inMode mode) K (b.driver.inMode mode) := by
    obtain ⟨keys, session, chained, lastCode, nonces, hK, hd⟩ := hJ
    refine ⟨keys, session, chained, lastCode, nonces, hK, ?_⟩
    rw [hd]
    rfl
  have hout : ∀ d, Kept (d₀.inMode mode) K d → Kept d₀ K (d.inMode b.driver.framer.mode) := by
    rintro d ⟨keys, session, chained, lastCode, nonces, hK, rfl⟩
    obtain ⟨_, _, _, _, _, -, hd⟩ := hJ
    refine ⟨keys, session, chained, lastCode, nonces, hK, ?_⟩
    rw [hd]
    rfl
  obtain ⟨hJ', hw⟩ := h { b with driver := b.driver.inMode mode } hin
  rw [after_under]
  exact ⟨hout _ hJ', hw⟩

theorem drawNonce_kept : Keeps (Guards (Kept d₀ K) P) (drawNonce (σ := σ)) := by
  intro b hJ
  unfold drawNonce
  rw [after_ofCoding, Coding.after_onPart]
  have hfresh := Framer.fresh_keeps Framer.closed_alike
    (fun f nonces => ⟨f.chained, f.lastCode, nonces, rfl⟩) b.driver.framer
  exact ⟨hJ.alike hfresh, .of_same rfl⟩

theorem orReset_kept {act : Act σ Device α} (h : Keeps (Guards (Kept d₀ Unconstrained) P) act) :
    Keeps (Guards (Kept d₀ Unconstrained) P) (orReset act) := by
  intro b hJ
  obtain ⟨hJ', hw⟩ := h b hJ
  unfold orReset
  cases hrun : act b with
  | ok a b' =>
    rw [hrun] at hJ' hw
    exact ⟨hJ', hw⟩
  | error e b' =>
    rw [hrun] at hJ' hw
    exact ⟨hJ'.resumed {} .unauthenticated none, hw⟩

/-- A handshake changes keys and session, and no setting. -/
theorem handshake_kept {exchange : Device → Block → Act σ Device α}
    (hx : ∀ d nonce, Keeps (Guards (Kept (d₀.inMode .reserved) Unconstrained) P) (exchange d nonce))
    (install : α → Keys → Keys) :
    Keeps (Guards (Kept d₀ Unconstrained) P) (handshake exchange install) := by
  have hC := (blind_guards (σ := σ) (J := Kept d₀ Unconstrained) (P := P)).toClosed
  unfold handshake
  refine Keeps.bind hC drawNonce_kept fun nonce => ?_
  refine Keeps.bind hC (Keeps.change fun b hJ => ?_) fun _ => ?_
  · exact ⟨hJ.resumed b.driver.framer.keys .handshakeInFlight b.driver.framer.chained,
      .of_same rfl⟩
  refine Keeps.bind hC (Keeps.get hC) fun b => ?_
  refine Keeps.bind hC (orReset_kept (under_kept (hx b.driver nonce))) fun key => ?_
  refine Keeps.change fun b hJ => ?_
  exact ⟨hJ.resumed (install key b.driver.framer.keys) b.driver.framer.session
    b.driver.framer.chained, .of_same rfl⟩

theorem prepared_kept {b : Bench σ Device} (h : Kept d₀ K b.driver)
    (hmode : d₀.framer.mode = d₀.configured) : Kept d₀ Unconstrained (prepared b).driver := by
  obtain ⟨_, _, _, lastCode, nonces, -, hd⟩ := h
  refine ⟨{}, .unauthenticated, none, lastCode, nonces, trivial, ?_⟩
  change { b.driver with
    framer := { b.driver.framer.resetSession with mode := b.driver.configured } } = _
  rw [hd]
  change ({ d₀ with framer := { d₀.framer with
    keys := {}, session := .unauthenticated, chained := none, lastCode, nonces,
    mode := d₀.configured } } : Device) = _
  rw [← hmode]

variable [Link σ]

/-- An exchange keeps settings and session; what it writes is the command as the host frames it. -/
theorem send_kept {command : Bytes}
    (hP : ∀ d raw g, Kept d₀ K d → Framer.encode command d.framer = .ok raw g → P raw) :
    Keeps (Guards (Kept d₀ K) P) (Channel.send command : Act σ Device Answer) := by
  refine Channel.send_guards (fun d hd => ⟨hd.encode command, ?_⟩) fun frame d hd => hd.decode frame
  intro raw d' hraw
  exact hP d raw d'.framer hd (encode_framer hraw)

/-- In a mode without protection the command itself is what an exchange writes. -/
theorem send_bare {mode : Mode} (hs : ¬ mode.isSigned) (hc : ¬ mode.isCiphered) {code : UInt16}
    {data : Bytes}
    (hP : P (Peer.frame (d₀.framer.inMode mode) (Peer.request d₀.framer.type code data))) :
    Keeps (Guards (Kept (d₀.inMode mode) K) P) (send (σ := σ) code data) := by
  apply send_kept
  rintro d raw g ⟨keys, session, chained, lastCode, nonces, -, rfl⟩ hraw
  obtain ⟨body, message, hsealed⟩ := Framer.encode_command_ok hraw
  rw [hsealed.bare hs hc]
  exact hP

/-- What is made of the answer to a probe changes nothing. -/
theorem after_probe (b : Bench σ Device) :
    after (probe b) = after (under .plain (Channel.send ping) b) := by
  unfold probe
  rw [after_under]
  refine (after_under .plain _ b).trans ?_
  dsimp only
  cases Channel.send ping { b with driver := b.driver.inMode .plain } with
  | ok answer c => rfl
  | error e c =>
    cases e with
    | frame cause =>
      cases cause with
      | status reported => cases reported <;> rfl
      | _ => rfl
    | _ => rfl

theorem probe_kept
    (hP : P (Peer.frame (d₀.framer.inMode .plain)
      (Peer.request d₀.framer.type informationCode []))) :
    Keeps (Guards (Kept d₀ K) P) (probe (σ := σ)) := by
  have hping : Keeps (Guards (Kept (d₀.inMode .plain) K) P)
      (Channel.send ping : Act σ Device Answer) := send_bare (by decide) (by decide) hP
  intro b
  rw [after_probe]
  exact under_kept hping b

section

variable (hP : ∀ data, P (Peer.frame (d₀.framer.inMode .reserved)
  (Peer.request d₀.framer.type authenticateCode data)))
include hP

theorem handshakeStep_kept (message : Bytes) :
    Keeps (Guards (Kept (d₀.inMode .reserved) K) P) (handshakeStep (σ := σ) message) := by
  have hsend : Keeps (Guards (Kept (d₀.inMode .reserved) K) P)
      (send (σ := σ) authenticateCode message) := send_bare (by decide) (by decide) (hP message)
  intro b
  rw [after_handshakeStep]
  exact hsend b

theorem authenticateHmac_kept :
    Keeps (Guards (Kept d₀ Unconstrained) P) (authenticateHmac (σ := σ)) := by
  rw [authenticateHmac_eq]
  refine handshake_kept (fun d nonce => ?_) _
  exact hmacExchange_keeps blind_guards.toClosed (handshakeStep_kept hP) _

theorem authenticateAes_kept :
    Keeps (Guards (Kept d₀ Unconstrained) P) (authenticateAes (σ := σ)) := by
  rw [authenticateAes_eq]
  refine handshake_kept (fun d nonce => ?_) _
  exact aesExchange_keeps blind_guards.toClosed (handshakeStep_kept hP) _

end

/-- Setting a session up writes requests of the handshakes, in their own mode, and nothing else. -/
theorem configure_kept (b : Bench σ Device) (h : Kept d₀ Unconstrained (prepared b).driver)
    (hP : ∀ data, P (Peer.frame (d₀.framer.inMode .reserved)
      (Peer.request d₀.framer.type authenticateCode data))) :
    Kept d₀ Unconstrained (after (configure b)).driver ∧
      World.Wrote P b.world (after (configure b)).world := by
  have hC := (blind_guards (σ := σ) (J := Kept d₀ Unconstrained) (P := P)).toClosed
  rw [configure_eq]
  refine Keeps.bind hC ?_ (fun _ => Keeps.bind hC ?_ fun _ => ?_) (prepared b) h
  · exact Keeps.ite (authenticateHmac_kept hP) (Keeps.pure hC _)
  · exact Keeps.ite (authenticateAes_kept hP) (Keeps.pure hC _)
  · refine Keeps.ite (Keeps.change fun b hJ => ?_) (Keeps.pure hC _)
    exact ⟨hJ.resumed b.driver.framer.keys .authenticated b.driver.framer.chained, .of_same rfl⟩

theorem after_resetAuthenticate (b : Bench σ Device) :
    after (resetAuthenticate b) =
      { after (send resetCode [] b) with
        driver := { (after (send resetCode [] b)).driver with
          framer := (after (send resetCode [] b)).driver.framer.resetSession } } := by
  unfold resetAuthenticate
  cases send resetCode [] b with
  | ok answer b' => rfl
  | error e b' => rfl

section

variable {J : Device → Prop}
  (hsend : ∀ command, Keeps (Guards J P) (Channel.send command : Act σ Device Answer))
include hsend

theorem query_guards (code : UInt16) (data : Bytes) (read : Bytes → Except ReaderError α) :
    Keeps (Guards J P) (do Act.ofExcept (read (← send code data).data) : Act σ Device α) := by
  have hguards := blind_guards (σ := σ) (J := J) (P := P)
  exact Keeps.bind hguards.toClosed (hsend _) fun answer => hguards.ofExcept _

theorem order_guards (code : UInt16) (data : Bytes) :
    Keeps (Guards J P) (do let _ ← send code data : Act σ Device Unit) := by
  have hC := (blind_guards (σ := σ) (J := J) (P := P)).toClosed
  exact Keeps.bind hC (hsend _) fun _ => Keeps.pure hC _

theorem changeKeys_guards (hmacKey : Option Bytes) (aesKey : Option Block) :
    Keeps (Guards J P) (changeKeys (σ := σ) hmacKey aesKey) := by
  have hC := (blind_guards (σ := σ) (J := J) (P := P)).toClosed
  unfold changeKeys
  exact Keeps.guarded hC _ (order_guards hsend keysCode _)

theorem setAddress_guards (address : UInt8) :
    Keeps (Guards J P) (setAddress (σ := σ) address) := by
  have hC := (blind_guards (σ := σ) (J := J) (P := P)).toClosed
  unfold setAddress
  exact Keeps.guarded hC _ (order_guards hsend addressCode _)

theorem loadKeys_guards : Keeps (Guards J P) (loadKeys (σ := σ)) := by
  have hC := (blind_guards (σ := σ) (J := J) (P := P)).toClosed
  unfold loadKeys
  refine Keeps.bind hC (hsend _) fun answer => ?_
  exact Keeps.ite (Keeps.throw hC _) (Keeps.pure hC _)

theorem chipInAir_guards : Keeps (Guards J P) (chipInAir (σ := σ)) := by
  have hC := (blind_guards (σ := σ) (J := J) (P := P)).toClosed
  unfold chipInAir
  refine Keeps.bind hC (query_guards hsend scanACode [0x00] Scan.typeA) fun seen => ?_
  cases seen with
  | some chip => exact Keeps.pure hC (some chip)
  | none => exact query_guards hsend scanBCode [] Scan.typeB

theorem resetAuthenticate_guards
    (hreset : ∀ d, J d → J { d with framer := d.framer.resetSession }) :
    Keeps (Guards J P) (resetAuthenticate (σ := σ)) := by
  intro b hJ
  obtain ⟨hJ', hw⟩ := hsend (command resetCode []) b hJ
  rw [after_resetAuthenticate]
  exact ⟨hreset _ hJ', hw⟩

theorem release_guards (hreset : ∀ d, J d → J { d with framer := d.framer.resetSession }) :
    Keeps (Guards J P) (release (σ := σ)) := by
  have hC := (blind_guards (σ := σ) (J := J) (P := P)).toClosed
  unfold release
  refine Keeps.bind hC (Keeps.get hC) fun b => ?_
  refine Keeps.ite (resetAuthenticate_guards hsend hreset) ?_
  exact fun b hJ => ⟨hreset b.driver hJ, .of_same rfl⟩

end

end Device

end CardReader.Stid
