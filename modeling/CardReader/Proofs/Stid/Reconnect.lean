import CardReader.Proofs.Probing
import CardReader.Proofs.Stid.Wire

namespace CardReader

open Run Act Bench

variable {σ δ α : Type}

/-- Two benches in step, at which the same was written since the surroundings were `w` and `w'`. -/
structure Bench.Replayed (R : Nat → σ → Nat → σ → Prop) (w w' : World) (S : δ → δ → Prop)
    (b b' : Bench σ δ) : Prop extends Paired R w.clock w'.clock S b b' where
  written : ∃ new, b.world.sent = new ++ w.sent ∧ b'.world.sent = new ++ w'.sent

variable {R : Nat → σ → Nat → σ → Prop} {w w' : World} {S : δ → δ → Prop}

namespace Bench

theorem through_replayed : Through S (Replayed R w w' S) where
  driver h := h.driver
  of_driver h _ _ hd := ⟨h.toPaired.of_driver hd, h.written⟩

theorem Replayed.writtenSince_eq {b b' : Bench σ δ} (h : Replayed R w w' S b b') :
    w'.writtenSince b'.world = w.writtenSince b.world := by
  obtain ⟨new, hnew, hnew'⟩ := h.written
  rw [World.writtenSince_eq hnew, World.writtenSince_eq hnew']

end Bench

namespace Channel

variable [Link σ] [Codec δ] {command : Bytes}

theorem framed_paired (hR : Link.Bisimulation R) {start start' : Nat}
    (hframed : ∀ d d', S d d' → Codec.encode command d' = Codec.encode command d)
    {b b' : Bench σ δ} (h : Paired R start start' S b b') :
    framed command b' = framed command b := by
  have hopen : b'.channel.isConnected = b.channel.isConnected := hR.open_eq h.related
  unfold framed
  rw [hframed _ _ h.driver, hopen]

/-- Benches in step stay so when they send a command that they frame alike. -/
theorem send_replayed (hR : Link.Bisimulation R) (hS : ∀ d, S d d)
    (hframed : ∀ d d', S d d' → Codec.encode command d' = Codec.encode command d) :
    Lockstep (Replayed R w w' S) (Replayed R w w' S)
      (Channel.send command : Act σ δ Answer) (Channel.send command) := by
  intro b b' h
  have hpaired := send_paired hR hS hframed b b' h.toPaired
  obtain ⟨new, hnew, hnew'⟩ := h.written
  have hwritten : ∃ new, (after (Channel.send command b)).world.sent = new ++ w.sent ∧
      (after (Channel.send command b')).world.sent = new ++ w'.sent := by
    refine ⟨framed command b ++ new, ?_, ?_⟩
    · rw [send_sent, hnew, List.append_assoc]
    · rw [send_sent, hnew', framed_paired hR hframed h.toPaired, List.append_assoc]
  exact (hpaired.and hwritten).mono fun _ _ hst => ⟨hst.1, hst.2⟩

end Channel

namespace Stid.Device

/-- Devices with the same options and the same source of nonces, whatever their sessions are. -/
def Akin (d d' : Device) : Prop := ∃ mode keys session chained lastCode,
  d' = { d with framer := { d.framer with mode, keys, session, chained, lastCode } }

theorem fresh_coded : Lockstep Coded Coded
    (Coding.onPart framer (fun f d => { d with framer := f }) Framer.fresh)
    (Coding.onPart framer (fun f d => { d with framer := f }) Framer.fresh) := by
  rintro d _ ⟨last, rfl⟩
  unfold Coding.onPart Framer.fresh
  dsimp only
  cases (Stid.drawNonce d.framer.nonces).1 with
  | ok nonce => exact Matched.ok nonce ⟨last, rfl⟩
  | error cause => exact Matched.error (FrameError.session cause) ⟨last, rfl⟩

section

variable {Q : Bench σ Device → Bench σ Device → Prop}

theorem ofSession_lockstep (out : Except SessionError α) :
    Lockstep Q Q (ofSession out : Act σ Device α) (ofSession out) := by
  cases out with
  | ok a => exact Lockstep.pure a
  | error cause => exact Lockstep.throw (ReaderError.session cause)

variable [Link σ]

theorem handshakeStep_lockstep
    (hsend : ∀ data, Lockstep Q Q (send authenticateCode data : Act σ Device Answer)
      (send authenticateCode data)) (message : Bytes) :
    Lockstep Q Q (handshakeStep message : Act σ Device Answer) (handshakeStep message) := by
  intro b b' h
  have hrun := hsend message b b' h
  unfold handshakeStep
  generalize send authenticateCode message b = out, send authenticateCode message b' = out' at hrun
  cases hrun with
  | ok answer h => exact .ok answer h
  | error e h => cases e <;> exact .error _ h

variable (hstep : ∀ message, Lockstep Q Q (handshakeStep message : Act σ Device Answer)
  (handshakeStep message))
include hstep

theorem hmacExchange_lockstep (handshake : HmacHandshake) :
    Lockstep Q Q (hmacExchange handshake : Act σ Device Bytes) (hmacExchange handshake) := by
  unfold hmacExchange
  refine Lockstep.bind (hstep hmacRequest) fun challenge => ?_
  exact Lockstep.bind (hstep _) fun reply => ofSession_lockstep _

theorem aesExchange_lockstep (handshake : AesHandshake) :
    Lockstep Q Q (aesExchange handshake : Act σ Device Block) (aesExchange handshake) := by
  unfold aesExchange
  refine Lockstep.bind (hstep aesRequest) fun challenge => ?_
  refine Lockstep.bind (ofSession_lockstep _) fun answered => ?_
  exact Lockstep.bind (hstep _) fun reply => ofSession_lockstep _

end

section

variable {Q : Bench σ Device → Bench σ Device → Prop} (hQ : Through Coded Q)
include hQ

/-- A change of the codec that does not look at the last command. -/
theorem onFramer_lockstep {g : Framer → Framer}
    (hg : ∀ f code, g { f with lastCode := code } = { g f with lastCode := code }) :
    Lockstep Q Q (onFramer g : Act σ Device Unit) (onFramer g) := by
  refine hQ.onDriver ?_
  rintro d _ ⟨last, rfl⟩
  refine ⟨last, ?_⟩
  dsimp only
  rw [hg]

theorem orReset_lockstep {act act' : Act σ Device α} (hact : Lockstep Q Q act act') :
    Lockstep Q Q (orReset act) (orReset act') := by
  intro b b' h
  have hrun := hact b b' h
  unfold orReset
  generalize act b = out, act' b' = out' at hrun
  cases hrun with
  | ok a h => exact .ok a h
  | error e h =>
    refine .error e (hQ.of_driver h ?_)
    obtain ⟨last, hlast⟩ := hQ.driver h
    exact ⟨last, by rw [hlast]; rfl⟩

/-- Handshakes are in step when their exchanges are. -/
theorem handshake_lockstep {exchange : Device → Block → Act σ Device α}
    (hx : ∀ d d' nonce, Coded d d' → Lockstep Q Q (exchange d nonce) (exchange d' nonce))
    (install : α → Keys → Keys) :
    Lockstep Q Q (handshake exchange install) (handshake exchange install) := by
  unfold handshake
  refine Lockstep.bind (hQ.ofCoding fresh_coded) fun nonce => ?_
  refine Lockstep.bind (onFramer_lockstep hQ fun _ _ => rfl) fun _ => ?_
  intro b b' h
  rw [get_bind_run, get_bind_run]
  have hexchange := under_lockstep hQ .reserved (hx _ _ nonce (hQ.driver h))
  refine (orReset_lockstep hQ hexchange b b' h).bind fun key => ?_
  exact onFramer_lockstep hQ fun _ _ => rfl

variable [Link σ]
  (hstep : ∀ message, Lockstep Q Q (handshakeStep message : Act σ Device Answer)
    (handshakeStep message))
include hstep

theorem authenticateHmac_lockstep :
    Lockstep Q Q (authenticateHmac : Act σ Device Unit) authenticateHmac := by
  rw [authenticateHmac_eq]
  refine handshake_lockstep hQ ?_ _
  rintro d _ nonce ⟨last, rfl⟩
  exact hmacExchange_lockstep hstep _

theorem authenticateAes_lockstep :
    Lockstep Q Q (authenticateAes : Act σ Device Unit) authenticateAes := by
  rw [authenticateAes_eq]
  refine handshake_lockstep hQ ?_ _
  rintro d _ nonce ⟨last, rfl⟩
  exact aesExchange_lockstep hstep _

/-- From the moment at which the old session is gone, both are set up in step. -/
theorem configure_lockstep {b b' : Bench σ Device} (h : Q (prepared b) (prepared b')) :
    Matched Q (configure b) (configure b') := by
  have hconfigured : b'.driver.configured = b.driver.configured := by
    change (prepared b').driver.configured = (prepared b).driver.configured
    obtain ⟨last, hlast⟩ := hQ.driver h
    rw [hlast]
  rw [configure_eq, configure_eq, hconfigured]
  refine Lockstep.bind ?_ (fun _ => Lockstep.bind ?_ fun _ => ?_) _ _ h
  · exact Lockstep.ite (authenticateHmac_lockstep hQ hstep) (Lockstep.pure _)
  · exact Lockstep.ite (authenticateAes_lockstep hQ hstep) (Lockstep.pure _)
  · exact Lockstep.ite (onFramer_lockstep hQ fun _ _ => rfl) (Lockstep.pure _)

end

theorem prepared_akin {b b' : Bench σ Device}
    (h : Paired R b.world.clock b'.world.clock Akin b b') :
    Replayed R b.world b'.world Coded (prepared b) (prepared b') := by
  have hd : Coded (prepared b).driver (prepared b').driver := by
    obtain ⟨mode, keys, session, chained, last, hakin⟩ := h.driver
    refine ⟨last, ?_⟩
    unfold prepared refit
    dsimp only
    rw [hakin]
    rfl
  exact ⟨h.of_driver hd, [], rfl, rfl⟩

/-- A new session owes nothing to an old one. Devices with the same options, at links that cannot be
told apart and with the same source of nonces, write the same frames when they are configured, come
to the same result, and differ afterwards in the last command at most: keys, chained block, session
and mode are the same. -/
theorem configure_forgets [Link σ] (hR : Link.Bisimulation R) {b b' : Bench σ Device}
    (h : Paired R b.world.clock b'.world.clock Akin b b') :
    outcome (configure b') = outcome (configure b) ∧
      b'.world.writtenSince (after (configure b')).world =
        b.world.writtenSince (after (configure b)).world ∧
      Coded (after (configure b)).driver (after (configure b')).driver := by
  have hsend : ∀ data, Lockstep (Replayed R b.world b'.world Coded)
      (Replayed R b.world b'.world Coded) (send authenticateCode data : Act σ Device Answer)
      (send authenticateCode data) := fun data =>
    Channel.send_replayed hR closed_coded.refl fun _ _ => encode_coded authenticateCode data
  -- The devices differ in whole sessions before, and in the last command alone once both have
  -- dropped theirs, which no command looks at.
  have hrun := configure_lockstep through_replayed (handshakeStep_lockstep hsend)
    (prepared_akin h)
  exact ⟨hrun.outcome_eq, hrun.after.writtenSince_eq, hrun.after.driver⟩

/-- A host in signed mode at a reader that answers both steps of the handshake. -/
def signing : Bench ScriptedLink Device :=
  { exhausted with driver := { exhausted.driver with configured := .signed } }

/-- The same host in the middle of an earlier session, some time later. -/
def resumed : Bench ScriptedLink Device where
  world := { clock := 90, journal := [.sent [0x02] false] }
  channel := signing.channel
  driver := { signing.driver with framer := { signing.driver.framer with
    mode := .reserved
    keys := ⟨some [0x0A, 0x0B], some .zero⟩
    session := .authenticated
    chained := some .zero
    lastCode := 0x0009 } }

theorem configure_forgets_resumed :
    Paired ScriptedLink.Alike signing.world.clock resumed.world.clock Akin signing resumed ∧
      outcome (configure resumed) = .ok () ∧
      resumed.world.writtenSince (after (configure resumed)).world =
        signing.world.writtenSince (after (configure signing)).world ∧
      (signing.world.writtenSince (after (configure signing)).world).length = 2 ∧
      Coded (after (configure signing)).driver (after (configure resumed)).driver := by
  have hpaired :
      Paired ScriptedLink.Alike signing.world.clock resumed.world.clock Akin signing resumed :=
    ⟨⟨[], rfl, rfl⟩, rfl, rfl, rfl, rfl, _, _, _, _, _, rfl⟩
  have hrun : succeeded (configure signing) ∧
      (signing.world.writtenSince (after (configure signing)).world).length = 2 := by
    decide +kernel
  obtain ⟨_, t, hok⟩ := (succeeded_iff _).mp hrun.1
  obtain ⟨houtcome, hwritten, hcoded⟩ :=
    configure_forgets ScriptedLink.bisimulation_alike hpaired
  refine ⟨hpaired, ?_, hwritten, hrun.2, hcoded⟩
  rw [houtcome, hok]
  rfl

end Stid.Device

end CardReader
