import CardReader.Proofs.Reader.Operation
import CardReader.Proofs.Steady

namespace CardReader

open Run Act Bench

variable {σ δ : Type}

namespace World

/-- No port was taken or given back, and links were opened, or tried to be, `n` times. -/
structure Tallied (n : Nat) (w w' : World) : Prop where
  ports_eq : w'.ports = w.ports
  openings_eq : w'.openings = w.openings + n

theorem Tallied.trans {m n : Nat} {u v w : World} (huv : Tallied m u v) (hvw : Tallied n v w) :
    Tallied (m + n) u w where
  ports_eq := hvw.ports_eq.trans huv.ports_eq
  openings_eq := by rw [hvw.openings_eq, huv.openings_eq, Nat.add_assoc]

end World

theorem Bench.Steady.tallied [Link σ] {b b' : Bench σ δ} (h : Steady b b') :
    b.world.Tallied 0 b'.world := ⟨h.ports_eq, h.openings_eq⟩

namespace Channel

variable [Link σ]

/-- The link is closed, or its closing failed. -/
def ShutOff (c : Channel σ) : Prop :=
  ¬ c.isConnected ∨ ∃ now link e, (Link.disconnect now link).result = .error e ∧
    c.link = (Link.disconnect now link).link

def opening (b : Bench σ δ) : Bench σ δ :=
  { b with
    world := b.world.note (.opened b.channel.name)
    channel := { b.channel with buffer := b.channel.buffer.clear, last := {} } }

theorem openLink_eq (b : Bench σ δ) : openLink b = ofLink Link.connect (opening b) := rfl

theorem openLink_ok (hσ : Link.Faithful σ) {b b' : Bench σ δ} (h : openLink b = .ok () b') :
    b.world.Tallied 1 b'.world ∧ b'.channel.isConnected ∧ b'.driver = b.driver := by
  rw [openLink_eq] at h
  cases hresult : (Link.connect b.world.clock b.channel.link).result with
  | ok _ =>
    rw [ofLink_ok (b := opening b) hresult] at h
    injection h with _ hb
    rw [← hb]
    exact ⟨⟨rfl, rfl⟩, hσ.connect_ok _ _ hresult, rfl⟩
  | error e =>
    rw [ofLink_error (b := opening b) hresult] at h
    contradiction

theorem openLink_error (hσ : Link.Faithful σ) {b b' : Bench σ δ} {e : ReaderError}
    (h : openLink b = .error e b') :
    b.world.Tallied 1 b'.world ∧ b'.channel.isConnected = b.channel.isConnected := by
  rw [openLink_eq] at h
  cases hresult : (Link.connect b.world.clock b.channel.link).result with
  | ok _ =>
    rw [ofLink_ok (b := opening b) hresult] at h
    contradiction
  | error e =>
    rw [ofLink_error (b := opening b) hresult] at h
    injection h with _ hb
    rw [← hb]
    exact ⟨⟨rfl, rfl⟩, hσ.connect_error _ _ e hresult⟩

def closing (b : Bench σ δ) : Bench σ δ :=
  { cleared b with world := b.world.note (.closed b.channel.name) }

theorem close_eq (b : Bench σ δ) : close b =
    if b.channel.isConnected then ofLink Link.disconnect (closing b) else .ok () (cleared b) := by
  change (if b.channel.isConnected then _ else _ : Act σ δ Unit) (cleared b) = _
  split <;> rfl

theorem close_tallied (b : Bench σ δ) : b.world.Tallied 0 (after (close b)).world := by
  rw [close_eq]
  by_cases hopen : b.channel.isConnected
  · rw [if_pos hopen, after_ofLink]
    exact ⟨rfl, rfl⟩
  · rw [if_neg hopen]
    exact ⟨rfl, rfl⟩

theorem close_shutOff (hσ : Link.Faithful σ) (b : Bench σ δ) :
    (after (close b)).channel.ShutOff := by
  rw [close_eq]
  by_cases hopen : b.channel.isConnected
  · rw [if_pos hopen, after_ofLink]
    cases hresult : (Link.disconnect b.world.clock b.channel.link).result with
    | ok _ => exact .inl (hσ.disconnect_ok _ _ hresult)
    | error e => exact .inr ⟨b.world.clock, b.channel.link, e, hresult, rfl⟩
  · rw [if_neg hopen]
    exact .inl hopen

end Channel

namespace Detection

variable [Link σ] [Driver δ]

/-- Channels of the candidates that a search tries and does not find the reader at, each one as the
search leaves it. -/
def rejected (timeout : Nat) : List (Nat → σ) → World → δ → List (Channel σ)
  | [], _, _ => []
  | make :: rest, w, d =>
    let (found, b) := answers ⟨w, Channel.onLink (make w.clock) timeout, d⟩
    if found then []
    else (closed b).channel :: rejected timeout rest (closed b).world (closed b).driver

variable (hσ : Link.Faithful σ) (hδ : Driver.Discreet σ δ)
include hσ hδ

/-- Asking a candidate opens one link, which is open if the candidate answers. -/
theorem answers_tallied (b : Bench σ δ) :
    b.world.Tallied 1 (answers b).2.world ∧
      ((answers b).1 → (answers b).2.channel.isConnected) := by
  unfold answers openProbe
  cases hopen : Channel.openLink b with
  | error e b' =>
    rw [bind_error hopen]
    exact ⟨(Channel.openLink_error hσ hopen).1, fun h => absurd h Bool.false_ne_true⟩
  | ok _ b' =>
    obtain ⟨htallied, hconnected, -⟩ := Channel.openLink_ok hσ hopen
    have hsteady := hδ.probe b'
    rw [bind_ok hopen]
    cases hprobe : (Driver.probe : Act σ δ Bool) b' with
    | ok found b'' =>
      rw [hprobe] at hsteady
      exact ⟨htallied.trans hsteady.tallied, fun _ => hsteady.open_eq.trans hconnected⟩
    | error e b'' =>
      rw [hprobe] at hsteady
      exact ⟨htallied.trans hsteady.tallied, fun h => absurd h Bool.false_ne_true⟩

/-- A search shuts off every link that it opens but one at which the reader answers. -/
theorem search_tallied (timeout : Nat) (candidates : List (Nat → σ)) (w : World) (d : δ) :
    let found := (search timeout candidates w d).1
    w.Tallied ((rejected timeout candidates w d).length + if found.isSome then 1 else 0)
        (search timeout candidates w d).2.1 ∧
      (∀ c, found = some c → c.isConnected) ∧
      ∀ c ∈ rejected timeout candidates w d, c.ShutOff := by
  induction candidates generalizing w d with
  | nil => exact ⟨⟨rfl, rfl⟩, nofun, fun c hc => absurd hc List.not_mem_nil⟩
  | cons make rest ih =>
    have hanswers := answers_tallied hσ hδ ⟨w, Channel.onLink (make w.clock) timeout, d⟩
    unfold search rejected
    generalize answers ⟨w, Channel.onLink (make w.clock) timeout, d⟩ = answer at hanswers
    obtain ⟨found, b⟩ := answer
    obtain ⟨htallied, hopen⟩ := hanswers
    cases found with
    | true =>
      refine ⟨htallied, ?_, fun c hc => absurd hc List.not_mem_nil⟩
      intro c hc
      rw [← Option.some.inj hc]
      exact hopen rfl
    | false =>
      obtain ⟨hrest, hfound, hshut⟩ := ih (closed b).world (closed b).driver
      have hclosed : w.Tallied 1 (closed b).world := by
        rw [Reader.closed_after]
        exact htallied.trans (Channel.close_tallied b)
      refine ⟨?_, hfound, ?_⟩
      · have hall := hclosed.trans hrest
        rw [← Nat.add_assoc, Nat.add_comm 1] at hall
        exact hall
      · intro c hc
        obtain rfl | hc := List.mem_cons.mp hc
        · rw [Reader.closed_after]
          exact Channel.close_shutOff hσ b
        · exact hshut c hc

omit hσ hδ in
/-- Channels that a detection opens and does not leave open. -/
def runRejected (timeout : Nat) (scanner : Scanner σ) (w : World) (d : δ) : List (Channel σ) :=
  match scanner.find scanner.looks with
  | .error _ => []
  | .ok candidates => rejected timeout candidates (w.note .scanned) d

/-- Besides the links that it rejects, a detection opens the one that it finds. -/
theorem run_tallied (timeout : Nat) (scanner : Scanner σ) (w : World) (d : δ) :
    (∀ c ∈ runRejected timeout scanner w d, c.ShutOff) ∧
      match (run timeout scanner w d).result with
      | .ok (some c) =>
        w.Tallied ((runRejected timeout scanner w d).length + 1) (run timeout scanner w d).world ∧
          c.isConnected
      | _ =>
        w.Tallied (runRejected timeout scanner w d).length (run timeout scanner w d).world := by
  unfold run runRejected
  cases scanner.find scanner.looks with
  | error e => exact ⟨nofun, ⟨rfl, rfl⟩⟩
  | ok candidates =>
    obtain ⟨⟨hports, hopenings⟩, hfound, hshut⟩ :=
      search_tallied hσ hδ timeout candidates (w.note .scanned) d
    dsimp only
    generalize search timeout candidates (w.note .scanned) d = out at hports hopenings hfound
    obtain ⟨found, w', d'⟩ := out
    refine ⟨hshut, ?_⟩
    cases found with
    | none => exact ⟨hports, hopenings⟩
    | some c => exact ⟨⟨hports, hopenings⟩, hfound c rfl⟩

end Detection

namespace Station

theorem forget_found_ports {s : Station σ δ} (h : s.reader.scanner.isSome) :
    s.forget.world.ports = s.reader.lease.elim s.world.ports s.world.ports.erase := by
  rw [forget_found h]

theorem forget_unfound {s : Station σ δ} (h : s.forget.reader.scanner.isSome) :
    s.forget.reader.channel = none ∧ s.forget.reader.lease = none := by
  by_cases hs : s.reader.scanner.isSome
  · rw [forget_found hs]
    exact ⟨rfl, rfl⟩
  · rw [forget_given hs] at h
    exact absurd h hs

theorem forget_openings (s : Station σ δ) : s.forget.world.openings = s.world.openings := by
  by_cases h : s.reader.scanner.isSome
  · rw [forget_found h]
    rfl
  · rw [forget_given h]

theorem forget_ports {s t : Station σ δ} (hports : t.world.ports = s.world.ports)
    (hlease : t.reader.lease = s.reader.lease)
    (hscanner : t.reader.scanner.isSome = s.reader.scanner.isSome) :
    t.forget.world.ports = s.forget.world.ports := by
  by_cases h : s.reader.scanner.isSome
  · rw [forget_found_ports h, forget_found_ports (hscanner.trans h), hports, hlease]
  · rw [forget_given h, forget_given (by rw [hscanner]; exact h), hports]

/-- A reader that is not in use: its own link is closed, or its port is still to be found. -/
structure Idle [Link σ] (s : Station σ δ) : Prop where
  state_eq : s.reader.state = .disconnected
  closed : ∀ c, s.reader.channel = some c → ¬ c.isConnected
  unfound : s.reader.scanner.isSome → s.reader.channel = none ∧ s.reader.lease = none

/-- From `s` on, links were opened `n` times, and the channel of `t` is open; when its port is
forgotten, the ports in use are those of `s`. -/
structure Ready [Link σ] (n : Nat) (s t : Station σ δ) : Prop where
  connected : ∃ c, t.reader.channel = some c ∧ c.isConnected
  ports_eq : t.forget.world.ports = s.world.ports
  openings_eq : t.world.openings = s.world.openings + n
  scanner_eq : t.reader.scanner.isSome = s.reader.scanner.isSome
  settings_eq : t.reader.settings = s.reader.settings

/-- From `s` on, links were opened `n` times, and `t` is not in use and has nothing in use. -/
structure Undone [Link σ] (n : Nat) (s t : Station σ δ) : Prop where
  tallied : s.world.Tallied n t.world
  state_eq : t.reader.state = .disconnected
  unfound : t.reader.scanner.isSome → t.reader.channel = none ∧ t.reader.lease = none
  shutOff : ∀ c, t.reader.channel = some c → c.ShutOff

theorem Ready.since [Link σ] {m n : Nat} {s t u : Station σ δ} (h : Ready n u t)
    (htallied : s.world.Tallied m u.world)
    (hscanner : u.reader.scanner.isSome = s.reader.scanner.isSome)
    (hsettings : u.reader.settings = s.reader.settings) : Ready (m + n) s t where
  connected := h.connected
  ports_eq := h.ports_eq.trans htallied.ports_eq
  openings_eq := by rw [h.openings_eq, htallied.openings_eq, Nat.add_assoc]
  scanner_eq := h.scanner_eq.trans hscanner
  settings_eq := h.settings_eq.trans hsettings

theorem Undone.since [Link σ] {m n : Nat} {s t u : Station σ δ} (h : Undone n u t)
    (htallied : s.world.Tallied m u.world) : Undone (m + n) s t where
  tallied := htallied.trans h.tallied
  state_eq := h.state_eq
  unfound := h.unfound
  shutOff := h.shutOff

theorem Idle.undone [Link σ] {s : Station σ δ} (h : s.Idle) : Undone 0 s s where
  tallied := ⟨rfl, rfl⟩
  state_eq := h.state_eq
  unfound := h.unfound
  shutOff c hc := .inl (h.closed c hc)

end Station

namespace Reader

open Station

variable [Link σ]

/-- The channel that was found and cannot be kept, as it is left. -/
def keepRejected (c : Channel σ) (s : Station σ δ) : List (Channel σ) :=
  if s.reader.sharesPorts ∧ (s.world.claim? c.name).isNone then
    [(after (Channel.close ⟨s.world, c, s.reader.driver⟩)).channel]
  else []

theorem claim?_ports {w w' : World} {port : String} (h : w.claim? port = some w') :
    w'.ports = port :: w.ports ∧ w'.openings = w.openings := by
  unfold World.claim? at h
  split at h
  · contradiction
  · rw [← Option.some.inj h]
    exact ⟨rfl, rfl⟩

/-- A channel that was found is kept together with its port, or shut off. -/
theorem keep_cases (hσ : Link.Faithful σ) {c : Channel σ} {s : Station σ δ} (hopen : c.isConnected)
    (hidle : s.Idle) (hscanner : s.reader.scanner.isSome) :
    (∀ d ∈ keepRejected c s, d.ShutOff) ∧
      ((∃ t, keep c s = .ok () t ∧ Ready 0 s t ∧ keepRejected c s = []) ∨
        ∃ e t, keep c s = .error e t ∧ Undone 0 s t ∧ (keepRejected c s).length = 1) := by
  obtain ⟨hchannel, hlease⟩ := hidle.unfound hscanner
  unfold keepRejected keep
  by_cases hshares : s.reader.sharesPorts
  · rw [if_neg (not_not_intro hshares)]
    cases hclaim : s.world.claim? c.name with
    | none =>
      have hrefused : claim c.name s = .error (.portInUse c.name) s := by
        unfold claim
        rw [hclaim]
      have hclosed := Channel.close_tallied (⟨s.world, c, s.reader.driver⟩ : Bench σ δ)
      have hleft : quietly Channel.close (s.onReader ({ · with channel := some c })) = _ :=
        (quietly_some rfl _).trans (after_atChannel c _ _)
      rw [if_pos ⟨hshares, rfl⟩, hrefused]
      dsimp only
      rw [hleft]
      refine ⟨?_, .inr ⟨_, _, rfl, ⟨hclosed, hidle.state_eq, fun _ => ⟨rfl, hlease⟩, nofun⟩, rfl⟩⟩
      intro d hd
      rw [List.mem_singleton.mp hd]
      exact Channel.close_shutOff hσ _
    | some world =>
      obtain ⟨hports, hopenings⟩ := claim?_ports hclaim
      have hclaimed : claim c.name s = .ok () (({ s with world } : Station σ δ).vacated.onReader
          ({ · with lease := some c.name })) := by
        unfold claim
        rw [hclaim]
      rw [if_neg (fun h => Bool.false_ne_true h.2), hclaimed, vacated_eq]
      refine ⟨nofun, .inl ⟨_, rfl, ⟨⟨c, rfl, hopen⟩, ?_, ?_, rfl, rfl⟩, rfl⟩⟩
      · refine (forget_found_ports (by exact hscanner)).trans ?_
        change (s.reader.lease.elim world.ports world.ports.erase).erase c.name = s.world.ports
        rw [hlease, Option.elim_none, hports, List.erase_cons_head]
      · exact hopenings
  · rw [if_neg (fun h => hshares h.1), if_pos hshares]
    refine ⟨nofun, .inl ⟨_, rfl, ⟨⟨c, rfl, hopen⟩, ?_, rfl, rfl, rfl⟩, rfl⟩⟩
    refine (forget_found_ports (by exact hscanner)).trans ?_
    change s.reader.lease.elim s.world.ports s.world.ports.erase = s.world.ports
    rw [hlease, Option.elim_none]

variable [Driver δ]

/-- Channels that finding a port opens and does not leave open. -/
def detectRejected (s : Station σ δ) : List (Channel σ) :=
  match s.reader.scanner with
  | none => []
  | some scanner =>
    if ¬ s.reader.settings.detectPorts then []
    else
      let timeout := s.reader.settings.detectionTimeout
      match (Detection.run timeout scanner s.world s.reader.driver).result with
      | .ok (some c) =>
        keepRejected c (looked scanner s) ++
          Detection.runRejected timeout scanner s.world s.reader.driver
      | _ => Detection.runRejected timeout scanner s.world s.reader.driver

variable (hσ : Link.Faithful σ) (hδ : Driver.Discreet σ δ)
include hσ hδ

/-- Finding a port ends with a channel that is ready, or with everything undone. Every other channel
that it opened is shut off. -/
theorem detect_cases {s : Station σ δ} (hidle : s.Idle) :
    (∀ c ∈ detectRejected s, c.ShutOff) ∧
      ((∃ t, detect s = .ok () t ∧ Ready ((detectRejected s).length + 1) s t) ∨
        ∃ e t, detect s = .error e t ∧ Undone (detectRejected s).length s t) := by
  unfold detectRejected
  rw [detect_eq]
  cases hscanner : s.reader.scanner with
  | none => exact ⟨nofun, .inr ⟨_, s, rfl, hidle.undone⟩⟩
  | some scanner =>
    have hsome : (looked scanner s).reader.scanner.isSome = s.reader.scanner.isSome := by
      rw [hscanner]
      rfl
    have hlooked : (looked scanner s).Idle :=
      ⟨hidle.state_eq, hidle.closed, fun h => hidle.unfound (hsome ▸ h)⟩
    dsimp only
    by_cases hports : s.reader.settings.detectPorts
    · obtain ⟨hshut, hends⟩ := Detection.run_tallied hσ hδ s.reader.settings.detectionTimeout
        scanner s.world s.reader.driver
      rw [if_neg (not_not_intro hports), if_neg (not_not_intro hports)]
      cases hresult : (Detection.run s.reader.settings.detectionTimeout scanner s.world
        s.reader.driver).result with
      | error e =>
        rw [hresult] at hends
        exact ⟨hshut, .inr ⟨_, _, rfl, hlooked.undone.since hends⟩⟩
      | ok found =>
        rw [hresult] at hends
        cases found with
        | none => exact ⟨hshut, .inr ⟨_, _, rfl, hlooked.undone.since hends⟩⟩
        | some c =>
          obtain ⟨htallied, hopen⟩ := hends
          obtain ⟨hkept, hkeep⟩ := keep_cases hσ hopen hlooked (by rw [hsome, hscanner]; rfl)
          refine ⟨?_, ?_⟩
          · intro d hd
            exact (List.mem_append.mp hd).elim (hkept d) (hshut d)
          · dsimp only
            rw [List.length_append]
            obtain ⟨t, hok, hready, hnone⟩ | ⟨e, t, herror, hundone, hone⟩ := hkeep
            · rw [hnone, List.length_nil, Nat.zero_add]
              exact .inl ⟨t, hok, hready.since htallied hsome rfl⟩
            · have hsince := hundone.since htallied
              rw [Nat.add_zero, Nat.add_comm] at hsince
              rw [hone]
              exact .inr ⟨e, t, herror, hsince⟩
    · rw [if_pos hports, if_pos hports]
      exact ⟨nofun, .inr ⟨_, s, rfl, hidle.undone⟩⟩

omit hσ hδ in
/-- Channels that opening the channel opens and does not leave open. -/
def openRejected (s : Station σ δ) : List (Channel σ) :=
  match s.reader.channel with
  | none => detectRejected s
  | some c =>
    match Channel.openLink (⟨s.world, c, s.reader.driver⟩ : Bench σ δ) with
    | .ok _ _ => []
    | .error _ b => [b.channel]

/-- The same of a reader that may have a channel already. -/
theorem openChannel_cases {s : Station σ δ} (hidle : s.Idle) :
    (∀ c ∈ openRejected s, c.ShutOff) ∧
      ((∃ t, openChannel s = .ok () t ∧ Ready ((openRejected s).length + 1) s t) ∨
        ∃ e t, openChannel s = .error e t ∧ Undone (openRejected s).length s t) := by
  unfold openRejected openChannel
  rw [get_bind_run]
  cases hchannel : s.reader.channel with
  | none => exact detect_cases hσ hδ hidle
  | some c =>
    have hgiven : ¬ s.reader.scanner.isSome := by
      intro h
      rw [(hidle.unfound h).1] at hchannel
      contradiction
    dsimp only [atChannel]
    cases hopen : Channel.openLink (⟨s.world, c, s.reader.driver⟩ : Bench σ δ) with
    | ok _ b =>
      obtain ⟨⟨hports, hopenings⟩, hconnected, -⟩ := Channel.openLink_ok hσ hopen
      refine ⟨nofun, .inl ⟨_, rfl, ⟨_, rfl, hconnected⟩, ?_, hopenings, rfl, rfl⟩⟩
      rw [forget_given (s := s.back b) hgiven]
      exact hports
    | error e b =>
      obtain ⟨htallied, hconnected⟩ := Channel.openLink_error hσ hopen
      have hshut : b.channel.ShutOff := .inl (by rw [hconnected]; exact hidle.closed c hchannel)
      refine ⟨?_, .inr ⟨_, _, rfl, htallied, hidle.state_eq, fun h => absurd h hgiven, ?_⟩⟩
      · intro d hd
        rw [List.mem_singleton.mp hd]
        exact hshut
      · intro d hd
        rw [← Option.some.inj hd]
        exact hshut

omit hσ hδ in
/-- The channel at which a reader cannot be configured, as it is left. -/
def startRejected (s : Station σ δ) : List (Channel σ) :=
  match bench? s with
  | none => []
  | some b =>
    match (Driver.configure : Act σ δ Unit) b with
    | .ok _ _ => []
    | .error _ b => [(after (Channel.close b)).channel]

/-- At a channel that is ready, configuring ends with a connected reader and the timeout of its
settings, or with everything undone. -/
theorem start_cases {n : Nat} {s t : Station σ δ} (hready : Ready n s t) :
    (∀ c ∈ startRejected t, c.ShutOff) ∧
      ((∃ u, start t = .ok () u ∧ startRejected t = [] ∧
          u.world.openings = s.world.openings + n ∧ u.reader.isConnected ∧
          (u.reader.state =
            if Driver.isAuthenticated u.reader.driver then .authenticated else .connected) ∧
          ∀ c, u.reader.channel = some c → c.timeout = s.reader.settings.dataTimeout) ∨
        ∃ e u, start t = .error e u ∧ (startRejected t).length = 1 ∧ Undone n s u) := by
  obtain ⟨c, hchannel, hopen⟩ := hready.connected
  obtain ⟨b, hb, hbench⟩ : ∃ b, bench? t = some b ∧
      b = ⟨t.world, { c with timeout := t.reader.settings.dataTimeout }, t.reader.driver⟩ :=
    ⟨_, Option.map_eq_some_iff.mpr ⟨c, hchannel, rfl⟩, rfl⟩
  have hsteady := hδ.configure b
  unfold startRejected
  rw [hb]
  dsimp only
  cases hrun : (Driver.configure : Act σ δ Unit) b with
  | ok _ b' =>
    rw [hrun] at hsteady
    have hconnected : b'.channel.isConnected := by
      rw [after] at hsteady
      rw [hsteady.open_eq, hbench]
      exact hopen
    refine ⟨fun d hd => absurd hd List.not_mem_nil,
      .inl ⟨_, start_configured hb hrun, rfl, ?_, ?_, rfl, ?_⟩⟩
    · rw [← hready.openings_eq]
      exact hsteady.openings_eq.trans (by rw [hbench])
    · change (_ && Channel.isConnected b'.channel) = true
      rw [hconnected, Bool.and_true]
      change (if _ then _ else _ : ReaderState) != .disconnected
      split <;> rfl
    · intro d hd
      rw [← Option.some.inj hd, ← hready.settings_eq]
      exact hsteady.timeout_eq.trans (by rw [hbench])
  | error e b' =>
    rw [hrun] at hsteady
    have hclosed := Channel.close_tallied b'
    have hports : (t.back (after (Channel.close b'))).forget.world.ports = s.world.ports := by
      rw [← hready.ports_eq]
      refine forget_ports ?_ rfl rfl
      exact hclosed.ports_eq.trans (hsteady.ports_eq.trans (by rw [hbench]))
    have hopenings : (t.back (after (Channel.close b'))).forget.world.openings =
        s.world.openings + n := by
      rw [forget_openings, ← hready.openings_eq]
      exact hclosed.openings_eq.trans (hsteady.openings_eq.trans (by rw [hbench]))
    refine ⟨?_, .inr ⟨e, _, start_unconfigured hb hrun, rfl, ⟨hports, hopenings⟩, rfl, ?_, ?_⟩⟩
    · intro d hd
      rw [List.mem_singleton.mp hd]
      exact Channel.close_shutOff hσ b'
    · exact fun hscanner => forget_unfound hscanner
    · intro d hd
      -- A channel that was found is gone by now; one that was given stays, and is shut off.
      by_cases hfound : t.reader.scanner.isSome
      · rw [forget_found (s := t.back _) hfound] at hd
        contradiction
      · rw [forget_given (s := t.back _) hfound] at hd
        rw [← Option.some.inj hd]
        exact Channel.close_shutOff hσ b'

omit hσ hδ in
/-- Channels of the links that connecting opens and does not leave open, each one as it is left. -/
def connectRejected (s : Station σ δ) : List (Channel σ) :=
  openRejected s ++
    match openChannel s with
    | .ok _ t => startRejected t
    | .error _ _ => []

/-- A reader that is not in use gets connected, or is not in use and has nothing in use again. -/
theorem connect_cases {s : Station σ δ} (hidle : s.Idle) :
    (∀ c ∈ connectRejected s, c.ShutOff) ∧
      ((∃ t, connect s = .ok () t ∧
          t.world.openings = s.world.openings + (connectRejected s).length + 1 ∧
          t.reader.isConnected ∧
          (t.reader.state =
            if Driver.isAuthenticated t.reader.driver then .authenticated else .connected) ∧
          ∀ c, t.reader.channel = some c → c.timeout = s.reader.settings.dataTimeout) ∨
        ∃ e t, connect s = .error e t ∧ Undone (connectRejected s).length s t) := by
  have hapart : ¬ s.reader.isConnected := by
    unfold isConnected
    rw [hidle.state_eq]
    exact Bool.false_ne_true
  unfold connectRejected
  rw [connect_apart hapart]
  obtain ⟨hshut, ⟨t, hopen, hready⟩ | ⟨e, t, hopen, hundone⟩⟩ := openChannel_cases hσ hδ hidle
  · rw [bind_ok hopen, hopen]
    dsimp only
    obtain ⟨hshut', ⟨u, hstart, hnone, hopenings, hends⟩ | ⟨e, u, hstart, hone, hundone⟩⟩ :=
      start_cases hσ hδ hready
    · refine ⟨?_, .inl ⟨u, hstart, ?_, hends⟩⟩
      · rw [hnone, List.append_nil]
        exact hshut
      · rw [hnone, List.append_nil, Nat.add_assoc]
        exact hopenings
    · refine ⟨?_, .inr ⟨e, u, hstart, ?_⟩⟩
      · intro c hc
        exact (List.mem_append.mp hc).elim (hshut c) (hshut' c)
      · rw [List.length_append, hone]
        exact hundone
  · rw [bind_error hopen, hopen]
    dsimp only
    rw [List.append_nil]
    exact ⟨hshut, .inr ⟨e, t, rfl, hundone⟩⟩

omit hσ hδ

/-- A reader that finds its port has a channel only while it is in use, and a port only together
with a channel. -/
structure Sound (r : Reader σ δ) : Prop where
  channel_eq : r.scanner.isSome → r.state = .disconnected → r.channel = none
  lease_eq : r.scanner.isSome → r.channel = none → r.lease = none

omit [Link σ] [Driver δ] in
theorem New.sound {r : Reader σ δ} (h : r.New) : r.Sound :=
  ⟨fun hscanner _ => (h.unfound hscanner).1, fun hscanner _ => (h.unfound hscanner).2⟩

omit [Driver δ] in
theorem keep_error {c : Channel σ} {s t : Station σ δ} {e : ReaderError}
    (h : keep c s = .error e t) : t.reader.channel = none ∧ t.reader.lease = s.reader.lease ∧
      t.reader.scanner = s.reader.scanner := by
  unfold keep at h
  by_cases hshares : s.reader.sharesPorts
  · rw [if_neg (not_not_intro hshares)] at h
    cases hclaim : claim c.name s with
    | ok _ u =>
      rw [hclaim] at h
      contradiction
    | error e' u =>
      have hleft : quietly Channel.close (s.onReader ({ · with channel := some c })) = _ :=
        (quietly_some rfl _).trans (after_atChannel c _ _)
      rw [hclaim] at h
      dsimp only at h
      rw [hleft] at h
      injection h with _ ht
      rw [← ht]
      exact ⟨rfl, rfl, rfl⟩
  · rw [if_pos hshares] at h
    contradiction

/-- A failure to find a port leaves no channel, and the lease of before. -/
theorem detect_error {s t : Station σ δ} {e : ReaderError} (hnone : s.reader.channel = none)
    (h : detect s = .error e t) : t.reader.channel = none ∧ t.reader.lease = s.reader.lease ∧
      t.reader.scanner.isSome = s.reader.scanner.isSome := by
  rw [detect_eq] at h
  cases hscanner : s.reader.scanner with
  | none =>
    rw [hscanner] at h
    injection h with _ ht
    rw [← ht, hscanner]
    exact ⟨hnone, rfl, rfl⟩
  | some scanner =>
    rw [hscanner] at h
    dsimp only at h
    split at h
    · injection h with _ ht
      rw [← ht, hscanner]
      exact ⟨hnone, rfl, rfl⟩
    · split at h
      · injection h with _ ht
        rw [← ht]
        exact ⟨hnone, rfl, rfl⟩
      · injection h with _ ht
        rw [← ht]
        exact ⟨hnone, rfl, rfl⟩
      · obtain ⟨hchannel, hlease, hlooked⟩ := keep_error h
        rw [hlooked]
        exact ⟨hchannel, hlease, rfl⟩

theorem sound_start {s : Station σ δ} (h : s.reader.channel.isSome) :
    (after (start s)).reader.Sound := by
  obtain ⟨c, hchannel⟩ := Option.isSome_iff_exists.mp h
  have hb : bench? s =
      some ⟨s.world, { c with timeout := s.reader.settings.dataTimeout }, s.reader.driver⟩ :=
    Option.map_eq_some_iff.mpr ⟨c, hchannel, rfl⟩
  cases hrun : (Driver.configure : Act σ δ Unit)
      ⟨s.world, { c with timeout := s.reader.settings.dataTimeout }, s.reader.driver⟩ with
  | ok _ b =>
    rw [start_configured hb hrun]
    refine ⟨fun _ hstate => ?_, fun _ hnone => ?_⟩
    · change (if _ then _ else _ : ReaderState) = .disconnected at hstate
      split at hstate <;> contradiction
    · contradiction
  | error e b =>
    rw [start_unconfigured hb hrun]
    exact ⟨fun hscanner _ => (forget_unfound hscanner).1,
      fun hscanner _ => (forget_unfound hscanner).2⟩

/-- Connecting, whether it succeeds or not, leaves a reader that can be connected again. -/
theorem sound_connect {s : Station σ δ} (hs : s.reader.Sound) :
    (after (connect s)).reader.Sound := by
  by_cases hc : s.reader.isConnected
  · rw [connect_connected hc]
    exact hs
  · rw [connect_apart hc]
    cases hopen : openChannel s with
    | ok _ t =>
      rw [bind_ok hopen]
      exact sound_start (openChannel_channel hopen)
    | error e t =>
      rw [bind_error hopen]
      unfold openChannel at hopen
      rw [get_bind_run] at hopen
      cases hchannel : s.reader.channel with
      | none =>
        rw [hchannel] at hopen
        obtain ⟨hnone, hlease, hscanner⟩ := detect_error hchannel hopen
        refine ⟨fun _ _ => hnone, fun h _ => ?_⟩
        exact hlease.trans (hs.lease_eq (hscanner ▸ h) hchannel)
      | some c =>
        rw [hchannel] at hopen
        dsimp only [atChannel] at hopen
        split at hopen
        · contradiction
        · injection hopen with _ ht
          rw [← ht]
          refine ⟨fun h hstate => ?_, fun _ hnone => nomatch hnone⟩
          have hnone := hs.channel_eq h hstate
          rw [hchannel] at hnone
          contradiction

theorem sound_disconnect {s : Station σ δ} (hs : s.reader.Sound) :
    (after (disconnect s)).reader.Sound := by
  have hsound : ∀ t : Station σ δ, t.forget.reader.Sound := fun t =>
    ⟨fun h _ => (forget_unfound h).1, fun h _ => (forget_unfound h).2⟩
  unfold disconnect
  dsimp only [onReader]
  cases hchannel : s.reader.channel with
  | none => exact ⟨fun _ _ => rfl, fun h _ => hs.lease_eq h hchannel⟩
  | some c =>
    dsimp only
    split
    · exact hsound _
    · split
      · exact hsound _
      · exact hsound _

theorem sound_runs {s : Station σ δ} (hs : s.reader.Sound) (ops : List (Operation σ δ)) :
    (Operation.runs s ops).reader.Sound := by
  induction ops generalizing s with
  | nil => exact hs
  | cons op ops ih =>
    apply ih
    by_cases hconnect : op = .connect
    · rw [hconnect]
      exact sound_connect hs
    · by_cases hdisconnect : op = .disconnect
      · rw [hdisconnect]
        exact sound_disconnect hs
      · obtain ⟨halike, hstate⟩ := Operation.run_alike hconnect hdisconnect s
        have hnone : (after (op.run s)).reader.channel = none ↔ s.reader.channel = none := by
          rw [← Option.not_isSome_iff_eq_none, halike.channel_eq, Option.not_isSome_iff_eq_none]
        refine ⟨fun h h' => ?_, fun h h' => ?_⟩
        · exact hnone.mpr (hs.channel_eq (halike.scanner_eq ▸ h) (hstate.mp h'))
        · exact halike.lease_eq.trans (hs.lease_eq (halike.scanner_eq ▸ h) (hnone.mp h'))

/-- A disconnected reader whose link is closed, after whatever happened to it, gets connected with
the timeout of its settings, or stays disconnected: then every link that was opened on the way is
closed again, unless its closing failed, and the ports in use are as before. -/
theorem connect_atomic (hσ : Link.Faithful σ) {s₀ : Station σ AnyDevice} (hnew : s₀.reader.New)
    (ops : List (Operation σ AnyDevice)) :
    let s := Operation.runs s₀ ops
    s.reader.state = .disconnected → (∀ c, s.reader.channel = some c → ¬ c.isConnected) →
    (∀ c ∈ connectRejected s, c.ShutOff) ∧
    match connect s with
    | .ok _ t =>
      t.world.openings = s.world.openings + (connectRejected s).length + 1 ∧
        t.reader.isConnected ∧
        (t.reader.state =
          if Driver.isAuthenticated t.reader.driver then .authenticated else .connected) ∧
        ∀ c, t.reader.channel = some c → c.timeout = s.reader.settings.dataTimeout
    | .error _ t =>
      t.world.openings = s.world.openings + (connectRejected s).length ∧
        t.world.ports = s.world.ports ∧ t.reader.state = .disconnected ∧
        ¬ t.reader.isConnected ∧ (∀ c, t.reader.channel = some c → c.ShutOff) ∧
        (t.reader.scanner.isSome → t.reader.channel = none ∧ t.reader.lease = none) := by
  intro s hstate hclosed
  have hsound : s.reader.Sound := sound_runs hnew.sound ops
  have hidle : s.Idle := by
    refine ⟨hstate, hclosed, fun hscanner => ?_⟩
    have hnone := hsound.channel_eq hscanner hstate
    exact ⟨hnone, hsound.lease_eq hscanner hnone⟩
  obtain ⟨hshut, ⟨t, hrun, hends⟩ | ⟨e, t, hrun, hundone⟩⟩ :=
    connect_cases hσ (AnyDevice.discreet hσ) hidle
  · rw [hrun]
    exact ⟨hshut, hends⟩
  · rw [hrun]
    refine ⟨hshut, hundone.tallied.openings_eq, hundone.tallied.ports_eq, hundone.state_eq, ?_,
      hundone.shutOff, hundone.unfound⟩
    unfold isConnected
    rw [hundone.state_eq]
    exact Bool.false_ne_true

end Reader

theorem ScriptedLink.faithful : Link.Faithful ScriptedLink where
  connect_ok now s h := by
    change (s.connected || s.openings.head?.join.isNone) = true
    change ScriptedLink.outcome s.openings.head?.join = .ok () at h
    cases hfault : s.openings.head?.join with
    | none => exact Bool.or_true _
    | some e =>
      rw [hfault] at h
      contradiction
  connect_error now s e h := by
    change (s.connected || s.openings.head?.join.isNone) = s.connected
    change ScriptedLink.outcome s.openings.head?.join = .error e at h
    cases hfault : s.openings.head?.join with
    | none =>
      rw [hfault] at h
      contradiction
    | some e' => exact Bool.or_false _
  disconnect_ok now s _ := Bool.false_ne_true
  send_open now data s := by
    change (ScriptedLink.send now s).link.connected = s.connected
    unfold ScriptedLink.send
    split
    · rfl
    · split
      · rfl
      · rfl
  receive_open now deadline s := by
    change (ScriptedLink.receive now deadline s).link.connected = s.connected
    unfold ScriptedLink.receive
    split
    · rfl
    · split
      · rfl
      · split
        · rfl
        · rfl

/-- A reader that is to be found, while another port is in use: one candidate is silent, and the
reader at the other one gives a name that is no reader's name once it is configured. -/
def unfound : Station ScriptedLink AnyDevice where
  world := { ports := ["sim9"] }
  reader :=
    { Reader.detected (.axess {})
        (Scanner.scripted [.ok [{ name := "sim0" },
          { name := "sim1", reactions := [.deliver [(1, .chunk [0x54, 0x4D, 0x43, 0x0D])],
              .deliver [(1, .chunk [0x4E, 0x0D])]] }]])
        { detectPorts := true } with
      sharesPorts := true }

theorem connect_atomic_unfound :
    Link.Faithful ScriptedLink ∧ unfound.reader.New ∧
      ∃ e t, Reader.connect unfound = .error e t ∧ (Reader.connectRejected unfound).length = 2 ∧
        (∀ c ∈ Reader.connectRejected unfound, c.ShutOff) ∧ t.world.ports = ["sim9"] ∧
        t.reader.channel = none ∧ t.reader.lease = none := by
  have hnew : unfound.reader.New := ⟨rfl, rfl, rfl, fun _ => ⟨rfl, rfl⟩⟩
  obtain ⟨hshut, hends⟩ := Reader.connect_atomic ScriptedLink.faithful hnew [] rfl nofun
  have hfails : succeeded (Reader.connect unfound) = false ∧
      (after (Reader.connect unfound)).reader.scanner.isSome ∧
      (Reader.connectRejected unfound).length = 2 := by decide +kernel
  obtain ⟨hfailed, hscanner, hlength⟩ := hfails
  refine ⟨ScriptedLink.faithful, hnew, ?_⟩
  rw [show Reader.Operation.runs unfound [] = unfound from rfl] at hshut hends
  cases hrun : Reader.connect unfound with
  | ok _ t =>
    rw [hrun] at hfailed
    contradiction
  | error e t =>
    rw [hrun] at hends hscanner
    obtain ⟨-, hports, -, -, -, hnone⟩ := hends
    obtain ⟨hchannel, hlease⟩ := hnone hscanner
    exact ⟨e, t, rfl, hlength, hshut, hports, hchannel, hlease⟩

end CardReader
