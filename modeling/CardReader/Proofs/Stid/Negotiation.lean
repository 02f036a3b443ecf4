import CardReader.Proofs.Stid.Session

namespace CardReader.Stid.Device

open Run Act

variable {σ α : Type}

/-- A handshake up to the key that it comes to. -/
def negotiation (exchange : Device → Block → Act σ Device α) : Act σ Device α := do
  let nonce ← drawNonce
  setSession .handshakeInFlight
  let d := (← get).driver
  under .reserved (exchange d nonce)

theorem of_orReset_ok {act : Act σ Device α} {b b' : Bench σ Device} {a : α}
    (h : orReset act b = .ok a b') : act b = .ok a b' := by
  cases hrun : act b with
  | ok a' t =>
    rw [orReset_ok hrun] at h
    exact h
  | error e t =>
    rw [orReset_error hrun] at h
    contradiction

/-- A handshake that succeeds installs the key that it came to, and keeps the other one. -/
theorem handshake_ok {exchange : Device → Block → Act σ Device α}
    (hx : ∀ d nonce, KeepsDriver Unciphered (exchange d nonce)) {install : α → Keys → Keys}
    {b after : Bench σ Device} (h : handshake exchange install b = .ok () after) :
    ∃ key b', negotiation exchange b = .ok key b' ∧
      after.driver.framer.keys = install key b.driver.framer.keys := by
  unfold handshake at h
  obtain ⟨nonce, b₁, hdraw, h⟩ := of_bind_ok h
  obtain ⟨_, b₂, hset, h⟩ := of_bind_ok h
  rw [get_bind_run] at h
  obtain ⟨key, b₃, hrun, hinstall⟩ := of_bind_ok h
  have hact := of_orReset_ok hrun
  have hkeys₁ : b₁.driver.framer.keys = b.driver.framer.keys := by
    cases hn : (Stid.drawNonce b.driver.framer.nonces).1 with
    | ok n =>
      rw [drawNonce_ok hn] at hdraw
      injection hdraw with _ hb
      rw [← hb]
      rfl
    | error cause =>
      rw [drawNonce_error hn] at hdraw
      contradiction
  have hkeys₂ : b₂.driver.framer.keys = b₁.driver.framer.keys := by
    injection hset with _ hb
    rw [← hb]
  have hkeys₃ : b₃.driver.framer.keys = b₂.driver.framer.keys := by
    obtain ⟨code, hcode⟩ := (under_unciphered (by decide) (hx b₂.driver nonce)).of_ok hact
    rw [hcode]
  refine ⟨key, b₃, ?_, ?_⟩
  · unfold negotiation
    rw [bind_ok hdraw, bind_ok hset]
    exact hact
  · injection hinstall with _ hafter
    rw [← hafter, ← hkeys₁, ← hkeys₂, ← hkeys₃]

variable [Link σ]

/-- The signed-mode handshake, if the mode of `b` asks for it. -/
def signedPart (b : Bench σ Device) : EStateM.Result ReaderError (Bench σ Device) Unit :=
  (if b.driver.configured.isSigned then authenticateHmac else pure ()) (prepared b)

/-- Keys that the handshakes came to when a session was set up at `b`. -/
structure Agreed (b : Bench σ Device) (keys : Keys) : Prop where
  hmac_eq : ∀ key, keys.hmac = some key → ∃ after,
    negotiation (fun d nonce => hmacExchange (.start d.hmacKey nonce)) (prepared b) = .ok key after
  aes_eq : ∀ key, keys.aes = some key → ∃ b' after, signedPart b = .ok () b' ∧
    negotiation (fun d nonce => aesExchange (.start d.aesKey nonce)) b' = .ok key after

theorem Agreed.keyless (b : Bench σ Device) : Agreed b {} where
  hmac_eq _ h := nomatch h
  aes_eq _ h := nomatch h

theorem authenticateHmac_ok {b after : Bench σ Device} (h : authenticateHmac b = .ok () after) :
    ∃ key b', negotiation (fun d nonce => hmacExchange (.start d.hmacKey nonce)) b = .ok key b' ∧
      after.driver.framer.keys = { b.driver.framer.keys with hmac := some key } := by
  rw [authenticateHmac_eq] at h
  exact handshake_ok (fun d nonce => hmacExchange_unciphered (.start d.hmacKey nonce)) h

theorem authenticateAes_ok {b after : Bench σ Device} (h : authenticateAes b = .ok () after) :
    ∃ key b', negotiation (fun d nonce => aesExchange (.start d.aesKey nonce)) b = .ok key b' ∧
      after.driver.framer.keys = { b.driver.framer.keys with aes := some key } := by
  rw [authenticateAes_eq] at h
  exact handshake_ok (fun d nonce => aesExchange_unciphered (.start d.aesKey nonce)) h

/-- Whether the first handshake is due, succeeds or fails: a key left by it was agreed on. -/
theorem agreed_signedPart (b : Bench σ Device) :
    Agreed b (after (signedPart b)).driver.framer.keys := by
  unfold signedPart
  by_cases hs : b.driver.configured.isSigned
  · rw [if_pos hs]
    obtain ⟨e, b', hrun, hb'⟩ | ⟨-, b', -, hrun, -⟩ :=
      authenticateHmac_cases (prepared b) ⟨rfl, rfl, rfl, rfl⟩
    · rw [hrun, after, hb'.keyless]
      exact .keyless b
    · obtain ⟨key, t, hkey, hkeys⟩ := authenticateHmac_ok hrun
      rw [hrun, after, hkeys]
      refine ⟨?_, fun _ h => nomatch h⟩
      intro key' h
      obtain rfl := Option.some.inj h
      exact ⟨t, hkey⟩
  · rw [if_neg hs]
    exact .keyless b

theorem agreed_authenticateAes {b b' : Bench σ Device} (hb' : signedPart b = .ok () b')
    (hagreed : Agreed b b'.driver.framer.keys) :
    Agreed b (after (authenticateAes b')).driver.framer.keys := by
  obtain ⟨cause, e, t, -, hrun, ht⟩ | ⟨nonce, e, t, -, hrun, ht⟩ | ⟨nonce, -, t, -, -, hrun, -⟩ :=
    authenticateAes_cases b' rfl
  · rw [hrun, after, ht]
    exact hagreed
  · rw [hrun, after, ht.keyless]
    exact .keyless b
  · obtain ⟨key, u, hkey, hkeys⟩ := authenticateAes_ok hrun
    rw [hrun, after, hkeys]
    refine ⟨hagreed.hmac_eq, ?_⟩
    intro key' h
    obtain rfl := Option.some.inj h
    exact ⟨b', u, hb', hkey⟩

/-- However setting a session up ends, the keys that are left come from its handshakes. -/
theorem agreed_configure (b : Bench σ Device) :
    Agreed b (after (configure b)).driver.framer.keys := by
  have hfirst := agreed_signedPart b
  unfold signedPart at hfirst
  rw [configure_eq]
  cases hrun : (if b.driver.configured.isSigned then authenticateHmac else pure ())
      (prepared b) with
  | error e b' =>
    rw [hrun] at hfirst
    rw [bind_error hrun]
    exact hfirst
  | ok _ b' =>
    rw [hrun] at hfirst
    rw [bind_ok hrun]
    have hsecond : Agreed b (after ((if b.driver.configured.isCiphered then authenticateAes
        else pure ()) b')).driver.framer.keys := by
      by_cases hc : b.driver.configured.isCiphered
      · rw [if_pos hc]
        exact agreed_authenticateAes hrun hfirst
      · rw [if_neg hc]
        exact hfirst
    cases hrun₂ : (if b.driver.configured.isCiphered then authenticateAes else pure ()) b' with
    | error e b'' =>
      rw [hrun₂] at hsecond
      rw [bind_error hrun₂]
      exact hsecond
    | ok _ b'' =>
      rw [hrun₂] at hsecond
      rw [bind_ok hrun₂]
      by_cases hany : b.driver.configured.isSigned ∨ b.driver.configured.isCiphered
      · rw [if_pos hany]
        exact hsecond
      · rw [if_neg hany]
        exact hsecond

/-- A session that is set up has each key that its mode needs. -/
theorem configure_ok {b after : Bench σ Device} (h : configure b = .ok () after) :
    (b.driver.configured.isSigned → after.driver.framer.keys.hmac.isSome) ∧
      (b.driver.configured.isCiphered → after.driver.framer.keys.aes.isSome) := by
  rw [configure_eq] at h
  obtain ⟨_, b₁, h₁, h⟩ := of_bind_ok h
  obtain ⟨_, b₂, h₂, h₃⟩ := of_bind_ok h
  have hlast : after.driver.framer.keys = b₂.driver.framer.keys := by
    by_cases hany : b.driver.configured.isSigned ∨ b.driver.configured.isCiphered
    · rw [if_pos hany] at h₃
      injection h₃ with _ hb
      rw [← hb]
    · rw [if_neg hany] at h₃
      injection h₃ with _ hb
      rw [hb]
  have hmac : b.driver.configured.isSigned → b₁.driver.framer.keys.hmac.isSome := by
    intro hs
    rw [if_pos hs] at h₁
    obtain ⟨key, t, -, hkeys⟩ := authenticateHmac_ok h₁
    rw [hkeys]
    rfl
  rw [hlast]
  by_cases hc : b.driver.configured.isCiphered
  · rw [if_pos hc] at h₂
    obtain ⟨key, t, -, hkeys⟩ := authenticateAes_ok h₂
    rw [hkeys]
    exact ⟨hmac, fun _ => rfl⟩
  · rw [if_neg hc] at h₂
    injection h₂ with _ hb
    rw [← hb]
    exact ⟨hmac, fun hn => absurd hn hc⟩

end CardReader.Stid.Device
