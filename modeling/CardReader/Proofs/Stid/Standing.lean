import CardReader.Proofs.Stid.Negotiation
import CardReader.Proofs.Stid.Operation

namespace CardReader.Stid

open Run Act Device

variable {σ : Type}

namespace Device

/-- The session is up, with every key that the configured mode needs. -/
structure Secure (d : Device) : Prop where
  session_eq : d.framer.session = .authenticated
  hmac_held : d.configured.isSigned → d.framer.keys.hmac.isSome
  aes_held : d.configured.isCiphered → d.framer.keys.aes.isSome

/-- There is no session and no key. -/
structure Bereft (d : Device) : Prop where
  session_eq : d.framer.session = .unauthenticated
  keyless : d.framer.keys = {}

/-- The session of a device. -/
def SessionOf (d : Device) (keys : Keys) (session : SessionState) : Prop :=
  keys = d.framer.keys ∧ session = d.framer.session

variable {d d' : Device}

theorem Secure.kept (h : Secure d) (hd : Kept d (SessionOf d) d') : Secure d' := by
  obtain ⟨keys, session, _, _, _, ⟨rfl, rfl⟩, rfl⟩ := hd
  exact ⟨h.session_eq, h.hmac_held, h.aes_held⟩

theorem Bereft.kept (h : Bereft d) (hd : Kept d (SessionOf d) d') : Bereft d' := by
  obtain ⟨keys, session, _, _, _, ⟨rfl, rfl⟩, rfl⟩ := hd
  exact ⟨h.session_eq, h.keyless⟩

end Device

/-- A reader that is said to be authenticated has its session, unless that lapsed. -/
def Standing (s : Station σ Device) (lapsed : Bool) : Prop :=
  s.reader.state = .authenticated →
    (lapsed = false → s.reader.driver.Secure) ∧ (lapsed = true → s.reader.driver.Bereft)

theorem Standing.of_state {s : Station σ Device} {lapsed : Bool}
    (h : s.reader.state ≠ .authenticated) : Standing s lapsed :=
  fun hstate => absurd hstate h

/-- What leaves the state of the reader and its session alone leaves its standing alone. -/
theorem Standing.calm {s t : Station σ Device} {lapsed : Bool} (hs : Standing s lapsed)
    (h : s.Calm (Kept s.reader.driver (SessionOf s.reader.driver)) (fun _ => True) t) :
    Standing t lapsed := by
  intro hstate
  rw [h.state_eq] at hstate
  -- `SessionOf` of the driver itself: its keys and its session stay what they are, not just lawful.
  obtain ⟨hkept, -⟩ := h.guards (.refl ⟨rfl, rfl⟩)
  obtain ⟨hsecure, hbereft⟩ := hs hstate
  exact ⟨fun hl => (hsecure hl).kept hkept, fun hl => (hbereft hl).kept hkept⟩

variable [Link σ]

namespace Device

theorem bereft_resetAuthenticate (b : Bench σ Device) :
    Bereft (after (resetAuthenticate b)).driver := by
  rw [after_resetAuthenticate]
  exact ⟨rfl, rfl⟩

theorem secure_configure {b b' : Bench σ Device} (h : configure b = .ok () b')
    (hs : b'.driver.framer.session = .authenticated) : Secure b'.driver := by
  obtain ⟨hsigned, hciphered⟩ := configure_ok h
  have hconfigured : b'.driver.configured = b.driver.configured := by
    have hkept : Kept (prepared b).driver Unconstrained (after (configure b)).driver :=
      (configure_kept (P := fun _ => True) b (.refl trivial) fun _ => trivial).1
    rw [h] at hkept
    obtain ⟨_, _, _, _, _, -, hd⟩ := hkept
    change b'.driver = _ at hd
    rw [hd]
    rfl
  rw [← hconfigured] at hsigned hciphered
  exact ⟨hs, hsigned, hciphered⟩

end Device

namespace Operation

/-- Whether the session of a reader is gone while the reader does not know it, after an operation,
given whether it was before. -/
def lapse (s : Station σ Device) (lapsed : Bool) : Operation → Bool
  | .connect => lapsed && (s.reader.isConnected || !succeeded (Reader.openChannel s))
  | .resetAuthenticate =>
    lapsed || s.reader.isConnected && !succeeded (Reader.resetAuthenticate s)
  | .disconnect => lapsed
  | .ask _ => lapsed

/-- The same after some operations. -/
def lapses (s : Station σ Device) (lapsed : Bool) : List Operation → Bool
  | [] => lapsed
  | op :: ops => lapses (after (op.run s)) (op.lapse s lapsed) ops

end Operation

namespace Standing

open Device

variable {s t : Station σ Device} {lapsed : Bool}

/-- An open channel ends a lapse, whatever comes of the configuring. -/
theorem start {b : Bench σ Device} (hb : Reader.bench? t = some b) :
    Standing (after (Reader.start t)) false := by
  cases hrun : configure b with
  | ok _ b' =>
    obtain ⟨u, hstart, hdriver, hstate⟩ := Reader.start_ok hb hrun
    rw [hstart]
    intro hu
    refine ⟨fun _ => ?_, fun h => nomatch h⟩
    have hsession : b'.driver.framer.session = .authenticated := by
      by_contra hne
      have hplain : ¬ Driver.isAuthenticated b'.driver := by
        intro h
        exact hne (eq_of_beq h)
      rw [if_neg hplain] at hstate
      rw [after, hstate] at hu
      contradiction
    rw [after, hdriver]
    exact secure_configure hrun hsession
  | error e b' =>
    obtain ⟨u, hstart, -, hstate⟩ := Reader.start_error hb hrun
    rw [hstart]
    apply of_state
    rw [after, hstate]
    decide

/-- Connecting sets up a session without a lapse, or leaves a connected reader as it is. -/
theorem connect (hs : Standing s lapsed) :
    Standing (after (Reader.connect s)) (Operation.connect.lapse s lapsed) := by
  have hopened := Reader.openChannel_calm (J := Kept s.reader.driver (SessionOf s.reader.driver))
    (P := fun _ => True) s fun _ => probe_kept trivial
  unfold Operation.lapse
  by_cases hc : s.reader.isConnected
  · rw [Reader.connect_connected hc, hc, Bool.true_or, Bool.and_true]
    exact hs
  · rw [Reader.connect_apart hc]
    rw [Bool.not_eq_true] at hc
    rw [hc, Bool.false_or]
    cases hopen : Reader.openChannel s with
    | error e t =>
      rw [hopen] at hopened
      rw [bind_error hopen, succeeded, Bool.not_false, Bool.and_true]
      exact hs.calm hopened
    | ok _ t =>
      obtain ⟨c, hchannel⟩ := Option.isSome_iff_exists.mp (Reader.openChannel_channel hopen)
      rw [bind_ok hopen, succeeded, Bool.not_true, Bool.and_false]
      exact start (Option.map_eq_some_iff.mpr ⟨c, hchannel, rfl⟩)

/-- A reset that fails on the line lapses the session and leaves the reader in its state. -/
theorem resetAuthenticate (hs : Standing s lapsed) :
    Standing (after (Reader.resetAuthenticate s))
      (Operation.resetAuthenticate.lapse s lapsed) := by
  unfold Operation.lapse
  by_cases hc : s.reader.isConnected
  · obtain ⟨c, huse⟩ := Reader.use_connected Device.resetAuthenticate hc
    have hbereft := bereft_resetAuthenticate ⟨s.world, c, s.reader.driver⟩
    cases hrun : Device.resetAuthenticate ⟨s.world, c, s.reader.driver⟩ with
    | ok _ b =>
      rw [Reader.atChannel, hrun] at huse
      apply of_state
      rw [Reader.resetAuthenticate, bind_ok huse]
      exact ReaderState.noConfusion
    | error e b =>
      -- The state of the reader is set only after the driver succeeds, and so it stays as it was.
      rw [Reader.atChannel, hrun] at huse
      rw [hrun] at hbereft
      rw [Reader.resetAuthenticate, bind_error huse, hc, succeeded, Bool.not_false, Bool.and_true,
        Bool.or_true]
      exact fun _ => ⟨fun h => Bool.noConfusion h, fun _ => hbereft⟩
  · have huse := Reader.use_apart Device.resetAuthenticate hc
    rw [Bool.not_eq_true] at hc
    rw [Reader.resetAuthenticate, bind_error huse, hc, Bool.false_and, Bool.or_false]
    exact hs

theorem disconnected (s : Station σ Device) (lapsed : Bool) :
    Standing (after (Reader.disconnect s)) lapsed := by
  have hsend : ∀ command, Keeps (Guards (fun _ => True) fun _ => True)
      (Channel.send command : Act σ Device Answer) := fun _ =>
    Channel.send_guards (fun _ _ => ⟨trivial, fun _ _ _ => trivial⟩) fun _ _ _ => trivial
  have hrelease := release_guards hsend fun _ _ => trivial
  apply of_state
  rw [(Reader.disconnect_watched hrelease s).2]
  decide

/-- One operation, also one that fails. -/
theorem step (hs : Standing s lapsed) (op : Operation) :
    Standing (after (op.run s)) (op.lapse s lapsed) := by
  cases op with
  | connect => exact hs.connect
  | disconnect => exact disconnected s lapsed
  | resetAuthenticate => exact hs.resetAuthenticate
  | ask request =>
    have hsend : ∀ command, Keeps
        (Guards (Kept s.reader.driver (SessionOf s.reader.driver)) fun _ => True)
        (Channel.send command : Act σ Device Answer) := fun _ => send_kept fun _ _ _ _ _ => trivial
    exact hs.calm (request.run_calm hsend s)

theorem run (hs : Standing s lapsed) (ops : List Operation) :
    Standing (Operation.runs s ops) (Operation.lapses s lapsed ops) := by
  induction ops generalizing s lapsed with
  | nil => exact hs
  | cons op ops ih => exact ih (hs.step op)

end Standing

/-- A reader in signed mode that completes the handshake and then falls silent. -/
def silenced : Station ScriptedLink Device where
  world := {}
  reader := .onLink
    { framer :=
        { mode := .signed
          nonces := [some (Block.ofPrefix [0xB0, 0xB1, 0xB2, 0xB3, 0xB4, 0xB5, 0xB6, 0xB7, 0xB8,
            0xB9, 0xBA, 0xBB, 0xBC, 0xBD, 0xBE, 0xBF])] }
      configured := .signed
      hmacKey := []
      aesKey := [] }
    { exhausted.channel.link with connected := false } { dataTimeout := 200 }

theorem silenced_runs :
    (Operation.runs silenced [.connect]).reader.state = .authenticated ∧
      (Operation.runs silenced [.connect, .resetAuthenticate]).reader.state = .authenticated ∧
      (Operation.runs silenced [.connect, .resetAuthenticate]).reader.driver.framer.session =
        .unauthenticated ∧
      (Operation.runs silenced [.connect, .resetAuthenticate]).world.sent.length = 3 := by
  decide +kernel

/-- After any operations on a reader that was disconnected, one that is said to be authenticated has
its session and its keys, unless the session lapsed: then it has neither. -/
theorem secure_of_authenticated (s : Station σ Device) (hs : s.reader.state = .disconnected)
    (ops : List Operation) (h : (Operation.runs s ops).reader.state = .authenticated) :
    (Operation.lapses s false ops = false → (Operation.runs s ops).reader.driver.Secure) ∧
      (Operation.lapses s false ops = true → (Operation.runs s ops).reader.driver.Bereft) := by
  have hstart : Standing s false := Standing.of_state (by rw [hs]; decide)
  exact hstart.run ops h

theorem secure_of_authenticated_silenced :
    silenced.reader.state = .disconnected ∧
      (Operation.runs silenced [.connect]).reader.state = .authenticated ∧
      (Operation.runs silenced [.connect]).reader.driver.Secure := by
  obtain ⟨hconnected, -⟩ := silenced_runs
  have hsecure := secure_of_authenticated silenced rfl [.connect] hconnected
  exact ⟨rfl, hconnected, hsecure.1 rfl⟩

theorem authenticated_not_secure :
    silenced.reader.state = .disconnected ∧
      (Operation.runs silenced [.connect, .resetAuthenticate]).reader.state = .authenticated ∧
      ¬ (Operation.runs silenced [.connect, .resetAuthenticate]).reader.driver.Secure := by
  obtain ⟨-, hstate, hsession, -⟩ := silenced_runs
  refine ⟨rfl, hstate, ?_⟩
  intro hsecure
  have hup := hsecure.session_eq
  rw [hsession] at hup
  exact absurd hup (by decide)

end CardReader.Stid
