import CardReader.Link.Scripted
import CardReader.Proofs.Channel
import CardReader.Proofs.Stid.Exchange
import CardReader.Stid.Device

namespace CardReader.Stid

/-- A choice of the two protections and nothing else. -/
def Mode.Configurable (m : Mode) : Prop :=
  m = .plain ∨ m = .signed ∨ m = .ciphered ∨ m = Mode.signed.union .ciphered

theorem Mode.Configurable.plain_iff {m : Mode} (hm : m.Configurable) :
    m = .plain ↔ ¬ (m.isSigned ∨ m.isCiphered) := by
  obtain rfl | rfl | rfl | rfl := hm <;> decide

def Framer.drawn (f : Framer) : Framer := { f with nonces := (drawNonce f.nonces).2 }

namespace Device

open Run Act

variable {σ α : Type}

/-- The devices differ in the code of the last command at most. -/
def Coded (d d' : Device) : Prop :=
  ∃ code, d' = { d with framer := { d.framer with lastCode := code } }

theorem closed_coded : Closed Coded where
  refl d := ⟨d.framer.lastCode, rfl⟩
  trans := by
    rintro s t u ⟨code, rfl⟩ ⟨code', rfl⟩
    exact ⟨code', rfl⟩

theorem after_encode (command : Bytes) (d : Device) :
    after (Codec.encode command d) =
      { d with framer := after (Framer.encode command d.framer) } :=
  Coding.after_onPart framer (fun f d => { d with framer := f }) (Framer.encode command) d

theorem after_decode (frame : Bytes) (d : Device) :
    after (Codec.decode frame d) = { d with framer := after (Framer.decode frame d.framer) } :=
  Coding.after_onPart framer (fun f d => { d with framer := f }) (Framer.decode frame) d

/-- In a mode without the cipher nothing but the code of the last command changes. -/
def Unciphered (d d' : Device) : Prop := ¬ d.framer.mode.isCiphered → Coded d d'

theorem closed_unciphered : Closed Unciphered where
  refl d _ := ⟨d.framer.lastCode, rfl⟩
  trans := by
    intro s t u hst htu hs
    obtain ⟨code, rfl⟩ := hst hs
    obtain ⟨code', rfl⟩ := htu hs
    exact ⟨code', rfl⟩

theorem encode_unciphered (command : Bytes) :
    Keeps Unciphered (Codec.encode command : Coding Device Bytes) := by
  intro d hm
  obtain ⟨code, hcode⟩ := Framer.encode_unciphered hm command
  refine ⟨code, ?_⟩
  rw [after_encode, hcode]

theorem decode_unciphered (frame : Bytes) :
    Keeps Unciphered (Codec.decode frame : Coding Device Answer) := by
  intro d hm
  refine ⟨d.framer.lastCode, ?_⟩
  rw [after_decode, Framer.decode_unciphered hm]

theorem after_handshakeStep [Link σ] (message : Bytes) (b : Bench σ Device) :
    after (handshakeStep message b) = after (send authenticateCode message b) := by
  unfold handshakeStep
  cases send authenticateCode message b with
  | ok answer b' => rfl
  | error e b' => cases e <;> rfl

section

variable {Q : Bench σ Device → Bench σ Device → Prop} (hQ : Closed Q)
include hQ

theorem ofSession_keeps (out : Except SessionError α) : Keeps Q (ofSession out) := by
  cases out with
  | ok a => exact Keeps.pure hQ a
  | error e => exact Keeps.throw hQ _

variable [Link σ]

theorem hmacExchange_keeps (hstep : ∀ message, Keeps Q (handshakeStep message))
    (handshake : HmacHandshake) : Keeps Q (hmacExchange handshake) := by
  unfold hmacExchange
  refine Keeps.bind hQ (hstep hmacRequest) fun challenge => ?_
  refine Keeps.bind hQ (hstep _) fun reply => ?_
  exact ofSession_keeps hQ _

theorem aesExchange_keeps (hstep : ∀ message, Keeps Q (handshakeStep message))
    (handshake : AesHandshake) : Keeps Q (aesExchange handshake) := by
  unfold aesExchange
  refine Keeps.bind hQ (hstep aesRequest) fun challenge => ?_
  refine Keeps.bind hQ (ofSession_keeps hQ _) fun out => ?_
  refine Keeps.bind hQ (hstep _) fun reply => ?_
  exact ofSession_keeps hQ _

end

theorem handshakeStep_unciphered [Link σ] (message : Bytes) :
    KeepsDriver (σ := σ) Unciphered (handshakeStep message) := by
  intro b
  rw [after_handshakeStep]
  exact Channel.send_keeps closed_unciphered encode_unciphered decode_unciphered
    (command authenticateCode message) b

theorem hmacExchange_unciphered [Link σ] (handshake : HmacHandshake) :
    KeepsDriver (σ := σ) Unciphered (hmacExchange handshake) :=
  hmacExchange_keeps (closed_driver closed_unciphered) handshakeStep_unciphered handshake

theorem aesExchange_unciphered [Link σ] (handshake : AesHandshake) :
    KeepsDriver (σ := σ) Unciphered (aesExchange handshake) :=
  aesExchange_keeps (closed_driver closed_unciphered) handshakeStep_unciphered handshake

theorem after_under (mode : Mode) (act : Act σ Device α) (b : Bench σ Device) :
    after (under mode act b) =
      { after (act { b with driver := b.driver.inMode mode }) with
        driver := (after (act { b with driver := b.driver.inMode mode })).driver.inMode
          b.driver.framer.mode } := by
  rw [under_eq]
  unfold andAlways
  cases act { b with driver := b.driver.inMode mode } with
  | ok a b' => rfl
  | error e b' => rfl

/-- The mode of before is back, so all that an act in a mode without the cipher leaves is a code. -/
theorem under_unciphered {mode : Mode} (hm : ¬ mode.isCiphered) {act : Act σ Device α}
    (hact : KeepsDriver Unciphered act) : KeepsDriver Coded (under mode act) := by
  intro b
  obtain ⟨code, hcode⟩ := hact { b with driver := b.driver.inMode mode } hm
  refine ⟨code, ?_⟩
  rw [after_under, hcode]
  rfl

/-- What the two handshakes have in common. -/
def handshake (exchange : Device → Block → Act σ Device α) (install : α → Keys → Keys) :
    Act σ Device Unit := do
  let nonce ← drawNonce
  setSession .handshakeInFlight
  let d := (← get).driver
  let key ← orReset (under .reserved (exchange d nonce))
  onFramer fun f => { f with keys := install key f.keys }

theorem authenticateHmac_eq [Link σ] : authenticateHmac (σ := σ) =
    handshake (fun d nonce => hmacExchange (.start d.hmacKey nonce))
      (fun key keys => { keys with hmac := some key }) := rfl

theorem authenticateAes_eq [Link σ] : authenticateAes (σ := σ) =
    handshake (fun d nonce => aesExchange (.start d.aesKey nonce))
      (fun key keys => { keys with aes := some key }) := rfl

/-- A bench with another codec in its device. -/
def refit (b : Bench σ Device) (f : Framer) : Bench σ Device :=
  { b with driver := { b.driver with framer := f } }

theorem drawNonce_ok {b : Bench σ Device} {nonce : Block}
    (h : (Stid.drawNonce b.driver.framer.nonces).1 = .ok nonce) :
    drawNonce b = .ok nonce (refit b b.driver.framer.drawn) := by
  simp only [drawNonce, ofCoding, Coding.onPart, Framer.fresh, h]
  rfl

theorem drawNonce_error {b : Bench σ Device} {cause : SessionError}
    (h : (Stid.drawNonce b.driver.framer.nonces).1 = .error cause) :
    drawNonce b = .error (.frame (.session cause)) (refit b b.driver.framer.drawn) := by
  simp only [drawNonce, ofCoding, Coding.onPart, Framer.fresh, h]
  rfl

theorem orReset_ok {act : Act σ Device α} {b b' : Bench σ Device} {a : α}
    (h : act b = .ok a b') : orReset act b = .ok a b' := by
  rw [orReset, h]

theorem orReset_error {act : Act σ Device α} {b b' : Bench σ Device} {e : ReaderError}
    (h : act b = .error e b') :
    orReset act b = .error e (refit b' b'.driver.framer.resetSession) := by
  rw [orReset, h]
  rfl

/-- A handshake stops for want of a nonce, or fails and drops the session, or installs its key. -/
theorem handshake_cases {exchange : Device → Block → Act σ Device α}
    (hx : ∀ d nonce, KeepsDriver Unciphered (exchange d nonce)) (install : α → Keys → Keys)
    (b : Bench σ Device) :
    (∃ cause after, (Stid.drawNonce b.driver.framer.nonces).1 = .error cause ∧
      handshake exchange install b = .error (.frame (.session cause)) after ∧
      after.driver.framer = b.driver.framer.drawn) ∨
    (∃ nonce e after code, (Stid.drawNonce b.driver.framer.nonces).1 = .ok nonce ∧
      handshake exchange install b = .error e after ∧
      after.driver.framer =
        Framer.resetSession { b.driver.framer.drawn with lastCode := code }) ∨
    (∃ nonce key after code, (Stid.drawNonce b.driver.framer.nonces).1 = .ok nonce ∧
      handshake exchange install b = .ok () after ∧
      after.driver.framer =
        { b.driver.framer.drawn with
          session := .handshakeInFlight
          lastCode := code
          keys := install key b.driver.framer.keys }) := by
  cases hn : (Stid.drawNonce b.driver.framer.nonces).1 with
  | error cause =>
-- Without a nonce no exchange is begun, and nothing is cleaned up.
    refine .inl ⟨cause, refit b b.driver.framer.drawn, rfl, ?_, rfl⟩
    rw [handshake, bind_error (drawNonce_error hn)]
  | ok nonce =>
    refine .inr ?_
    have hstart : handshake exchange install b =
        (get >>= fun ready => orReset (under .reserved (exchange ready.driver nonce)) >>= fun key =>
          onFramer fun f => { f with keys := install key f.keys })
            (refit b { b.driver.framer.drawn with session := .handshakeInFlight }) := by
      rw [handshake, bind_ok (drawNonce_ok hn)]
      rfl
    rw [get_bind_run] at hstart
    generalize hready : refit b { b.driver.framer.drawn with session := .handshakeInFlight } =
      ready at hstart
    have hkeep := under_unciphered (show ¬ Mode.reserved.isCiphered by decide)
      (hx ready.driver nonce)
    cases hrun : under .reserved (exchange ready.driver nonce) ready with
    | error e b' =>
      obtain ⟨code, hcode⟩ := hkeep.of_error hrun
      refine .inl ⟨nonce, e, refit b' b'.driver.framer.resetSession, code, rfl, ?_, ?_⟩
      · rw [hstart, bind_error (orReset_error hrun)]
      · rw [refit, hcode, ← hready]
        rfl
    | ok key b' =>
      obtain ⟨code, hcode⟩ := hkeep.of_ok hrun
      refine .inr ⟨nonce, key, refit b'
        { b'.driver.framer with keys := install key b'.driver.framer.keys }, code, rfl, ?_, ?_⟩
      · rw [hstart, bind_ok (orReset_ok hrun)]
        rfl
      · rw [refit, hcode, ← hready]
        rfl

/-- The session that a mode needs. -/
structure Established (m : Mode) (f : Framer) : Prop where
  hmac_iff : f.keys.hmac.isSome ↔ m.isSigned
  aes_iff : f.keys.aes.isSome ↔ m.isCiphered
  unchained : f.chained = none
  session_eq : f.session = if m = .plain then .unauthenticated else .authenticated
  mode_eq : f.mode = m

/-- No session. -/
structure Absent (m : Mode) (f : Framer) : Prop where
  keyless : f.keys = {}
  unchained : f.chained = none
  session_eq : f.session = .unauthenticated
  mode_eq : f.mode = m

/-- The first half of a session that needs both keys. -/
structure Stranded (m : Mode) (f : Framer) : Prop where
  hmac_held : f.keys.hmac.isSome
  aes_missing : f.keys.aes = none
  unchained : f.chained = none
  session_eq : f.session = .handshakeInFlight
  mode_eq : f.mode = m

/-- The bench at which the handshakes begin. -/
def prepared (b : Bench σ Device) : Bench σ Device :=
  refit b { b.driver.framer.resetSession with mode := b.driver.configured }

/-- Both handshakes are due, the first one succeeds, and the source of nonces fails after it. -/
def Starved [Link σ] (b : Bench σ Device) : Prop :=
  b.driver.configured.isSigned ∧ b.driver.configured.isCiphered ∧
    (∃ after, authenticateHmac (prepared b) = .ok () after) ∧
    ∃ cause, (Stid.drawNonce b.driver.framer.drawn.nonces).1 = .error cause

/-- Setting a session up is one handshake for each protection of the mode, and then a note that it
is there. -/
theorem configure_eq [Link σ] (b : Bench σ Device) :
    configure b =
      ((if b.driver.configured.isSigned then authenticateHmac else pure ()) >>= fun _ =>
        (if b.driver.configured.isCiphered then authenticateAes else pure ()) >>= fun _ =>
          if b.driver.configured.isSigned ∨ b.driver.configured.isCiphered then
            setSession .authenticated
          else pure ()) (prepared b) := by
  unfold configure
  rw [get_bind_run]
  by_cases hs : b.driver.configured.isSigned
  · by_cases hc : b.driver.configured.isCiphered
    · simp only [if_pos hs, if_pos hc]
      rfl
    · simp only [if_pos hs, if_neg hc]
      rfl
  · by_cases hc : b.driver.configured.isCiphered
    · simp only [if_neg hs, if_pos hc]
      rfl
    · simp only [if_neg hs, if_neg hc]
      rfl

theorem Absent.drawn {m : Mode} {f : Framer} (h : Absent m f) : Absent m f.drawn :=
  ⟨h.keyless, h.unchained, h.session_eq, h.mode_eq⟩

theorem absent_resetSession {m : Mode} {f : Framer} (h : f.mode = m) : Absent m f.resetSession :=
  ⟨rfl, rfl, rfl, h⟩

/-- Without a session, the signed-mode handshake installs its key or leaves no session. -/
theorem authenticateHmac_cases [Link σ] {m : Mode} (b : Bench σ Device)
    (h : Absent m b.driver.framer) :
    (∃ e after, authenticateHmac b = .error e after ∧ Absent m after.driver.framer) ∨
    (∃ key after code, authenticateHmac b = .ok () after ∧
      after.driver.framer =
        { b.driver.framer.drawn with
          session := .handshakeInFlight
          lastCode := code
          keys := ⟨some key, none⟩ }) := by
  rw [authenticateHmac_eq]
  obtain ⟨cause, after, -, hrun, hafter⟩ | ⟨nonce, e, after, code, -, hrun, hafter⟩ |
      ⟨nonce, key, after, code, -, hrun, hafter⟩ :=
    handshake_cases (σ := σ) (fun d nonce => hmacExchange_unciphered (.start d.hmacKey nonce))
      (fun key keys => { keys with hmac := some key }) b
  · refine .inl ⟨_, after, hrun, ?_⟩
    rw [hafter]
    exact h.drawn
  · refine .inl ⟨e, after, hrun, ?_⟩
    rw [hafter]
    exact absent_resetSession h.mode_eq
  · refine .inr ⟨key, after, code, hrun, ?_⟩
    rw [hafter, h.keyless]

/-- The ciphered-mode handshake stops for want of a nonce with the session as it is, or leaves no
session, or installs its key. -/
theorem authenticateAes_cases [Link σ] {m : Mode} (b : Bench σ Device)
    (hm : b.driver.framer.mode = m) :
    (∃ cause e after, (Stid.drawNonce b.driver.framer.nonces).1 = .error cause ∧
      authenticateAes b = .error e after ∧ after.driver.framer = b.driver.framer.drawn) ∨
    (∃ nonce e after, (Stid.drawNonce b.driver.framer.nonces).1 = .ok nonce ∧
      authenticateAes b = .error e after ∧ Absent m after.driver.framer) ∨
    (∃ nonce key after code, (Stid.drawNonce b.driver.framer.nonces).1 = .ok nonce ∧
      authenticateAes b = .ok () after ∧
      after.driver.framer =
        { b.driver.framer.drawn with
          session := .handshakeInFlight
          lastCode := code
          keys := { b.driver.framer.keys with aes := some key } }) := by
  rw [authenticateAes_eq]
  obtain ⟨cause, after, hn, hrun, hafter⟩ | ⟨nonce, e, after, code, hn, hrun, hafter⟩ |
      ⟨nonce, key, after, code, hn, hrun, hafter⟩ :=
    handshake_cases (σ := σ) (fun d nonce => aesExchange_unciphered (.start d.aesKey nonce))
      (fun key keys => { keys with aes := some key }) b
  · exact .inl ⟨cause, _, after, hn, hrun, hafter⟩
  · refine .inr (.inl ⟨nonce, e, after, hn, hrun, ?_⟩)
    rw [hafter]
    exact absent_resetSession hm
  · exact .inr (.inr ⟨nonce, key, after, code, hn, hrun, hafter⟩)

theorem established_authenticated {m : Mode} {f : Framer} (hm : m.Configurable)
    (hany : m.isSigned ∨ m.isCiphered) (hh : f.keys.hmac.isSome ↔ m.isSigned)
    (ha : f.keys.aes.isSome ↔ m.isCiphered) (hc : f.chained = none) (hmode : f.mode = m) :
    Established m { f with session := .authenticated } where
  hmac_iff := hh
  aes_iff := ha
  unchained := hc
  session_eq := by
    have hne : m ≠ .plain := fun h => hm.plain_iff.mp h hany
    rw [if_neg hne]
  mode_eq := hmode

theorem configure_unprotected [Link σ] (b : Bench σ Device) (hm : b.driver.configured.Configurable)
    (hs : ¬ b.driver.configured.isSigned) (hc : ¬ b.driver.configured.isCiphered) :
    ∃ after, configure b = .ok () after ∧
      Established b.driver.configured after.driver.framer := by
  have hplain : b.driver.configured = .plain := hm.plain_iff.mpr (not_or.mpr ⟨hs, hc⟩)
  refine ⟨prepared b, ?_, ?_⟩
  · rw [configure_eq, if_neg hs, if_neg hc, if_neg (not_or.mpr ⟨hs, hc⟩)]
    rfl
  · refine ⟨?_, ?_, rfl, ?_, rfl⟩
    · exact iff_of_false Bool.false_ne_true hs
    · exact iff_of_false Bool.false_ne_true hc
    · rw [if_pos hplain]
      rfl

/-- Where one handshake is due it succeeds, or nothing of a session is there. -/
theorem configure_signed [Link σ] (b : Bench σ Device) (hm : b.driver.configured.Configurable)
    (hs : b.driver.configured.isSigned) (hc : ¬ b.driver.configured.isCiphered) :
    (∃ after, configure b = .ok () after ∧
      Established b.driver.configured after.driver.framer) ∨
    (∃ e after, configure b = .error e after ∧
      Absent b.driver.configured after.driver.framer) := by
  have start : Absent b.driver.configured (prepared b).driver.framer := ⟨rfl, rfl, rfl, rfl⟩
  have hany : b.driver.configured.isSigned ∨ b.driver.configured.isCiphered := .inl hs
  rw [configure_eq, if_pos hs, if_neg hc, if_pos hany]
  obtain ⟨e, b₁, hrun, hb₁⟩ | ⟨key, b₁, code, hrun, hb₁⟩ := authenticateHmac_cases _ start
  · right
    exact ⟨e, b₁, bind_error hrun _, hb₁⟩
  · left
    refine ⟨refit b₁ { b₁.driver.framer with session := .authenticated }, ?_, ?_⟩
    · rw [bind_ok hrun]
      rfl
    · apply established_authenticated hm hany
      · rw [hb₁]
        exact iff_of_true rfl hs
      · rw [hb₁]
        exact iff_of_false Bool.false_ne_true hc
      · rw [hb₁]
        rfl
      · rw [hb₁]
        rfl

theorem configure_ciphered [Link σ] (b : Bench σ Device) (hm : b.driver.configured.Configurable)
    (hs : ¬ b.driver.configured.isSigned) (hc : b.driver.configured.isCiphered) :
    (∃ after, configure b = .ok () after ∧
      Established b.driver.configured after.driver.framer) ∨
    (∃ e after, configure b = .error e after ∧
      Absent b.driver.configured after.driver.framer) := by
  have start : Absent b.driver.configured (prepared b).driver.framer := ⟨rfl, rfl, rfl, rfl⟩
  have hany : b.driver.configured.isSigned ∨ b.driver.configured.isCiphered := .inr hc
  rw [configure_eq, if_neg hs, if_pos hc, if_pos hany, pure_bind_run]
  obtain ⟨cause, e, b₁, -, hrun, hb₁⟩ | ⟨nonce, e, b₁, -, hrun, hb₁⟩ |
      ⟨nonce, key, b₁, code, -, hrun, hb₁⟩ := authenticateAes_cases (prepared b) start.mode_eq
  · right
    refine ⟨e, b₁, bind_error hrun _, ?_⟩
    rw [hb₁]
    exact start.drawn
  · right
    exact ⟨e, b₁, bind_error hrun _, hb₁⟩
  · left
    refine ⟨refit b₁ { b₁.driver.framer with session := .authenticated }, ?_, ?_⟩
    · rw [bind_ok hrun]
      rfl
    · apply established_authenticated hm hany
      · rw [hb₁]
        exact iff_of_false Bool.false_ne_true hs
      · rw [hb₁]
        exact iff_of_true rfl hc
      · rw [hb₁]
        rfl
      · rw [hb₁]
        rfl

/-- Where both are due, the second one may still lack a nonce once the first one has succeeded. -/
theorem configure_both [Link σ] (b : Bench σ Device) (hm : b.driver.configured.Configurable)
    (hs : b.driver.configured.isSigned) (hc : b.driver.configured.isCiphered) :
    (¬ Starved b ∧ ∃ after, configure b = .ok () after ∧
      Established b.driver.configured after.driver.framer) ∨
    (¬ Starved b ∧ ∃ e after, configure b = .error e after ∧
      Absent b.driver.configured after.driver.framer) ∨
    (Starved b ∧ ∃ e after, configure b = .error e after ∧
      Stranded b.driver.configured after.driver.framer) := by
  have start : Absent b.driver.configured (prepared b).driver.framer := ⟨rfl, rfl, rfl, rfl⟩
  have hany : b.driver.configured.isSigned ∨ b.driver.configured.isCiphered := .inl hs
  rw [configure_eq, if_pos hs, if_pos hc, if_pos hany]
  obtain ⟨e, b₁, hrun, hb₁⟩ | ⟨key, b₁, code, hrun, hb₁⟩ := authenticateHmac_cases _ start
  · right
    left
    refine ⟨?_, e, b₁, bind_error hrun _, hb₁⟩
    intro ⟨_, _, ⟨after, hok⟩, _⟩
    rw [hrun] at hok
    contradiction
  · rw [bind_ok hrun]
    have hmode : b₁.driver.framer.mode = b.driver.configured := by
      rw [hb₁]
      rfl
    have hnonces : b₁.driver.framer.nonces = b.driver.framer.drawn.nonces := by
      rw [hb₁]
      rfl
    obtain ⟨cause, e, b₂, hn, hrun₂, hb₂⟩ | ⟨nonce, e, b₂, hn, hrun₂, hb₂⟩ |
        ⟨nonce, key₂, b₂, code₂, hn, hrun₂, hb₂⟩ := authenticateAes_cases b₁ hmode
    · right
      right
      -- The key of the first handshake stays, since this failure is not cleaned up.
      rw [hnonces] at hn
      refine ⟨⟨hs, hc, ⟨b₁, hrun⟩, cause, hn⟩, e, b₂, bind_error hrun₂ _, ?_⟩
      rw [hb₂, hb₁]
      exact ⟨rfl, rfl, rfl, rfl, rfl⟩
    · right
      left
      refine ⟨?_, e, b₂, bind_error hrun₂ _, hb₂⟩
      intro ⟨_, _, _, cause, herr⟩
      rw [hnonces, herr] at hn
      contradiction
    · left
      refine ⟨?_, refit b₂ { b₂.driver.framer with session := .authenticated }, ?_, ?_⟩
      · intro ⟨_, _, _, cause, herr⟩
        rw [hnonces, herr] at hn
        contradiction
      · rw [bind_ok hrun₂]
        rfl
      · apply established_authenticated hm hany
        · rw [hb₂, hb₁]
          exact iff_of_true rfl hs
        · rw [hb₂]
          exact iff_of_true rfl hc
        · rw [hb₂, hb₁]
          rfl
        · rw [hb₂]
          exact hmode

/-- Setting a session up ends with the session that the mode needs, or with no session; only when
the source of nonces fails between the two handshakes, half of a session is left. -/
theorem configure_all_or_nothing [Link σ] (b : Bench σ Device)
    (hm : b.driver.configured.Configurable) :
    (∀ after, configure b = .ok () after →
      Established b.driver.configured after.driver.framer) ∧
    (∀ e after, configure b = .error e after → ¬ Starved b →
      Absent b.driver.configured after.driver.framer) ∧
    (Starved b → ∃ e after, configure b = .error e after ∧
      Stranded b.driver.configured after.driver.framer) := by
  have ends : (¬ Starved b ∧ ∃ after, configure b = .ok () after ∧
        Established b.driver.configured after.driver.framer) ∨
      (¬ Starved b ∧ ∃ e after, configure b = .error e after ∧
        Absent b.driver.configured after.driver.framer) ∨
      (Starved b ∧ ∃ e after, configure b = .error e after ∧
        Stranded b.driver.configured after.driver.framer) := by
    by_cases hs : b.driver.configured.isSigned
    · by_cases hc : b.driver.configured.isCiphered
      · exact configure_both b hm hs hc
      · have fed : ¬ Starved b := fun h => hc h.2.1
        obtain h | h := configure_signed b hm hs hc
        · exact .inl ⟨fed, h⟩
        · exact .inr (.inl ⟨fed, h⟩)
    · have fed : ¬ Starved b := fun h => hs h.1
      by_cases hc : b.driver.configured.isCiphered
      · obtain h | h := configure_ciphered b hm hs hc
        · exact .inl ⟨fed, h⟩
        · exact .inr (.inl ⟨fed, h⟩)
      · exact .inl ⟨fed, configure_unprotected b hm hs hc⟩
-- A run has one end, so each of the three rules the other two out.
  obtain ⟨fed, b', hrun, hb'⟩ | ⟨fed, e, b', hrun, hb'⟩ | ⟨starved, e, b', hrun, hb'⟩ := ends
  · refine ⟨?_, ?_, fun h => absurd h fed⟩
    · intro after hafter
      obtain ⟨-, rfl⟩ : () = () ∧ b' = after := by
        simpa [hrun] using hafter
      exact hb'
    · intro e after hafter
      rw [hrun] at hafter
      contradiction
  · refine ⟨?_, ?_, fun h => absurd h fed⟩
    · intro after hafter
      rw [hrun] at hafter
      contradiction
    · intro e' after hafter _
      obtain ⟨-, rfl⟩ : e = e' ∧ b' = after := by
        simpa [hrun] using hafter
      exact hb'
  · refine ⟨?_, ?_, fun _ => ⟨e, b', hrun, hb'⟩⟩
    · intro after hafter
      rw [hrun] at hafter
      contradiction
    · intro e' after _ fed
      exact absurd starved fed

/-- A reader that completes the signed-mode handshake of a host whose source of nonces has one. -/
def exhausted : Bench ScriptedLink Device where
  world := {}
  channel :=
    .onLink
      { name := "sim0"
        connected := true
        reactions :=
          [.deliver [(0, .chunk [0x02, 0x00, 0x16, 0x00, 0x04, 0x00, 0x01, 0x00, 0x10, 0x40, 0x41,
              0x42, 0x43, 0x44, 0x45, 0x46, 0x47, 0x48, 0x49, 0x4A, 0x4B, 0x4C, 0x4D, 0x4E, 0x4F,
              0x00, 0x00, 0xDE, 0x33])],
            .deliver [(0, .chunk [0x02, 0x00, 0x26, 0x00, 0x04, 0x00, 0x01, 0x00, 0x20, 0x57, 0x6E,
              0x1C, 0xB0, 0xE9, 0xF7, 0x7A, 0x10, 0x18, 0xE6, 0x49, 0x40, 0x10, 0xE6, 0xFD, 0xC4,
              0x86, 0x27, 0x44, 0xA1, 0x8E, 0xAA, 0x04, 0x78, 0x17, 0x6C, 0x7B, 0x3B, 0x06, 0x29,
              0x72, 0x07, 0x00, 0x00, 0x04, 0x11])]] } 200
  driver :=
    { framer := { nonces := [some (Block.ofPrefix [0xB0, 0xB1, 0xB2, 0xB3, 0xB4, 0xB5, 0xB6, 0xB7,
        0xB8, 0xB9, 0xBA, 0xBB, 0xBC, 0xBD, 0xBE, 0xBF])] }
      configured := Mode.signed.union .ciphered
      hmacKey := []
      aesKey := [] }

theorem starved_exhausted : Starved exhausted := by
  have h : succeeded (authenticateHmac (prepared exhausted)) := by decide +kernel
  obtain ⟨_, after, hrun⟩ := (succeeded_iff _).mp h
  exact ⟨rfl, rfl, ⟨after, hrun⟩, .insufficientEntropy, rfl⟩

theorem configure_all_or_nothing_exhausted :
    exhausted.driver.configured.Configurable ∧ Starved exhausted ∧
      ∃ e after, configure exhausted = .error e after ∧
        Stranded exhausted.driver.configured after.driver.framer := by
  have hm : exhausted.driver.configured.Configurable := .inr (.inr (.inr rfl))
  exact ⟨hm, starved_exhausted, (configure_all_or_nothing exhausted hm).2.2 starved_exhausted⟩

theorem configure_exhausted :
    exhausted.driver.configured.Configurable ∧
      ∃ e after, configure exhausted = .error e after ∧ after.driver.framer.keys ≠ {} ∧
        after.driver.framer.session ≠ .unauthenticated := by
  have hm : exhausted.driver.configured.Configurable := .inr (.inr (.inr rfl))
  refine ⟨hm, ?_⟩
  obtain ⟨fed, -⟩ | ⟨fed, -⟩ | ⟨-, e, after, hrun, hafter⟩ :=
    configure_both exhausted hm rfl rfl
  · exact absurd starved_exhausted fed
  · exact absurd starved_exhausted fed
  · refine ⟨e, after, hrun, ?_, ?_⟩
    · intro hkeys
      have held := hafter.hmac_held
      rw [hkeys] at held
      contradiction
    · rw [hafter.session_eq]
      decide

end Device

end CardReader.Stid
