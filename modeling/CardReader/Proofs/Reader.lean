import CardReader.Proofs.Channel
import CardReader.Reader.Waiting

namespace CardReader

open Run Act

variable {σ δ α β : Type} {J : δ → Prop} {P : Bytes → Prop}

namespace Station

/-- The driver guards `J` and `P`, and a port is looked for by the one reader if it is by the
other. -/
structure Watched (J : δ → Prop) (P : Bytes → Prop) (s s' : Station σ δ) : Prop where
  scanner_eq : s'.reader.scanner.isSome = s.reader.scanner.isSome
  guards : J s.reader.driver → J s'.reader.driver ∧ World.Wrote P s.world s'.world

/-- The reader is in the same state, too. -/
structure Calm (J : δ → Prop) (P : Bytes → Prop) (s s' : Station σ δ) : Prop
    extends Watched J P s s' where
  state_eq : s'.reader.state = s.reader.state

theorem Watched.trans {s t u : Station σ δ} (hst : Watched J P s t) (htu : Watched J P t u) :
    Watched J P s u where
  scanner_eq := htu.scanner_eq.trans hst.scanner_eq
  guards hJ := by
    obtain ⟨hJt, hw⟩ := hst.guards hJ
    obtain ⟨hJu, hw'⟩ := htu.guards hJt
    exact ⟨hJu, hw.trans hw'⟩

theorem Watched.of_same {s s' : Station σ δ}
    (hscanner : s'.reader.scanner.isSome = s.reader.scanner.isSome)
    (hdriver : s'.reader.driver = s.reader.driver) (hsent : s'.world.sent = s.world.sent) :
    Watched J P s s' where
  scanner_eq := hscanner
  guards hJ := by
    rw [hdriver]
    exact ⟨hJ, .of_same hsent⟩

theorem closed_watched : Closed (Watched (σ := σ) J P) where
  refl _ := .of_same rfl rfl rfl
  trans := Watched.trans

theorem Calm.of_same {s s' : Station σ δ}
    (hscanner : s'.reader.scanner.isSome = s.reader.scanner.isSome)
    (hdriver : s'.reader.driver = s.reader.driver) (hsent : s'.world.sent = s.world.sent)
    (hstate : s'.reader.state = s.reader.state) : Calm J P s s' :=
  ⟨.of_same hscanner hdriver hsent, hstate⟩

theorem closed_calm : Closed (Calm (σ := σ) J P) where
  refl _ := .of_same rfl rfl rfl rfl
  trans hst htu := ⟨hst.toWatched.trans htu.toWatched, htu.state_eq.trans hst.state_eq⟩

theorem vacated_eq (s : Station σ δ) :
    s.vacated = ⟨{ s.world with ports := s.reader.lease.elim s.world.ports s.world.ports.erase },
      { s.reader with lease := none }⟩ := by
  obtain ⟨world, ⟨driver, channel, scanner, settings, state, inserted, pending, shares, lease⟩⟩ := s
  cases lease with
  | none => rfl
  | some port => rfl

theorem forget_found {s : Station σ δ} (h : s.reader.scanner.isSome) :
    s.forget = ⟨{ s.world with ports := s.reader.lease.elim s.world.ports s.world.ports.erase },
      { s.reader with channel := none, lease := none }⟩ := by
  unfold forget
  rw [if_pos h, vacated_eq]
  rfl

theorem forget_given {s : Station σ δ} (h : ¬ s.reader.scanner.isSome) : s.forget = s := by
  unfold forget
  rw [if_neg h]

theorem vacated_calm (s : Station σ δ) : Calm J P s s.vacated := by
  unfold vacated
  cases s.reader.lease with
  | none => exact .of_same rfl rfl rfl rfl
  | some port => exact .of_same rfl rfl rfl rfl

theorem forget_calm (s : Station σ δ) : Calm J P s s.forget := by
  unfold forget
  by_cases h : s.reader.scanner.isSome
  · rw [if_pos h]
    have hchannel : Calm J P s (s.onReader ({ · with channel := none })) :=
      .of_same rfl rfl rfl rfl
    exact closed_calm.trans hchannel (vacated_calm _)
  · rw [if_neg h]
    exact closed_calm.refl s

end Station

namespace Reader

open Station

/-- A relation between stations that a scan keeps if its looks do. -/
structure Scannable (W : Station σ δ → Station σ δ → Prop) : Prop extends Closed W where
  aside : ∀ (s : Station σ δ) clock furthest log state,
    W s ⟨{ s.world with clock, furthest, log }, { s.reader with state }⟩

/-- A relation between stations that a wait keeps if its looks do, whatever cards it remembers. -/
structure Waitable (W : Station σ δ → Station σ δ → Prop) : Prop extends Scannable W where
  cards : ∀ (s : Station σ δ) inserted pending, W s (s.onReader ({ · with inserted, pending }))

/-- `W` holds, and the reader is in the same state. -/
def Resumed (W : Station σ δ → Station σ δ → Prop) (s s' : Station σ δ) : Prop :=
  W s s' ∧ s'.reader.state = s.reader.state

/-- The time of the next look, a whole interval from now. -/
def nextLook [Driver δ] (s : Station σ δ) : Nat :=
  s.world.clock + Driver.pollInterval s.reader.driver

def rested [Driver δ] (deadline : Nat) (s : Station σ δ) : Station σ δ :=
  { s with world := (s.world.reckon (nextLook s)).passUntil (min (nextLook s) deadline) }

theorem rest_late [Driver δ] {deadline : Nat} {s : Station σ δ} (h : deadline ≤ s.world.clock) :
    rest (some deadline) s = .ok false (s.reckon (nextLook s)) := by
  unfold rest pause
  dsimp only
  rw [if_pos h]
  rfl

theorem rest_early [Driver δ] {deadline : Nat} {s : Station σ δ} (h : s.world.clock < deadline) :
    rest (some deadline) s = .ok true (rested deadline s) := by
  unfold rest pause
  dsimp only
  rw [if_neg (Nat.not_le.mpr h)]
  rfl

theorem looksWithin_ne_zero (wait interval patience : Nat) :
    looksWithin wait interval patience ≠ 0 := by
  unfold looksWithin
  split <;> exact Nat.succ_ne_zero _

theorem pollFor_eq [Link σ] [Driver δ] (judge : Option Chip → Option β) (wait patience : Nat)
    (s : Station σ δ) :
    pollFor judge wait patience s =
      if wait = 0 then poll judge none patience s
      else poll judge (some (s.world.clock + wait))
        (looksWithin wait (Driver.pollInterval s.reader.driver) patience)
        (s.reckon (s.world.clock + wait)) := by
  unfold pollFor
  rw [get_bind_run]
  by_cases hwait : wait = 0
  · rw [if_pos hwait, if_pos hwait]
  · rw [if_neg hwait, if_neg hwait]
    rfl

section

variable {W : Station σ δ → Station σ δ → Prop} (hW : Closed W) [Link σ] [Driver δ]
  (hlook : Keeps W (look : Op σ δ (Option Chip)))
  (hreckon : ∀ time (s : Station σ δ), W s (s.reckon time))
  (hrest : ∀ deadline, Keeps W (rest deadline : Op σ δ Bool))
include hW hlook hrest

/-- What looks and pauses keep, a poll does. -/
theorem poll_keeps (judge : Option Chip → Option β) (deadline : Option Nat) (looks : Nat) :
    Keeps W (poll judge deadline looks : Op σ δ (Option β)) := by
  induction looks with
  | zero => exact Keeps.pure hW none
  | succ looks ih =>
    unfold Reader.poll
    refine Keeps.bind hW hlook fun seen => ?_
    cases judge seen with
    | some settled => exact Keeps.pure hW (some settled)
    | none =>
      refine Keeps.bind hW (hrest deadline) fun again => ?_
      exact Keeps.ite ih (Keeps.pure hW none)

include hreckon in
theorem pollFor_keeps (judge : Option Chip → Option β) (wait patience : Nat) :
    Keeps W (pollFor judge wait patience : Op σ δ (Option β)) := by
  unfold Reader.pollFor
  refine Keeps.bind hW (Keeps.get hW) fun s => ?_
  refine Keeps.ite (poll_keeps hW hlook hrest judge none patience) ?_
  exact Keeps.bind hW (hreckon _) fun _ => poll_keeps hW hlook hrest judge _ _

end

namespace Scannable

variable {W : Station σ δ → Station σ δ → Prop} (hW : Scannable W)
include hW

theorem closed_resumed : Closed (Resumed W) where
  refl s := ⟨hW.refl s, rfl⟩
  trans hst htu := ⟨hW.trans hst.1 htu.1, htu.2.trans hst.2⟩

/-- A scan is in a state of its own, and back in the one before when it is over. -/
theorem scanning {op : Op σ δ β} (h : Keeps W op) (shown : Bool) :
    Keeps (Resumed W) (scanning shown op) := by
  intro s
  have hlast : ∀ t : Station σ δ, W t
      ((if shown then t else { t with world := t.world.unhush }).onReader
        ({ · with state := s.reader.state })) := by
    intro t
    cases shown with
    | true => exact hW.aside t _ _ _ _
    | false => exact hW.aside t _ _ _ _
  unfold Reader.scanning
  dsimp only
  generalize hfirst : (if shown then s.onReader ({ · with state := .scanning }) else
    { s.onReader ({ · with state := .scanning }) with
      world := (s.onReader ({ · with state := .scanning })).world.hush }) = first
  have hentered : W s first := by
    rw [← hfirst]
    cases shown with
    | true => exact hW.aside s _ _ _ _
    | false => exact hW.aside s _ _ _ _
  have hop := h first
  cases hrun : op first with
  | ok a t =>
    rw [hrun] at hop
    exact ⟨hW.trans (hW.trans hentered hop) (hlast t), rfl⟩
  | error e t =>
    rw [hrun] at hop
    exact ⟨hW.trans (hW.trans hentered hop) (hlast t), rfl⟩

variable [Driver δ]

omit [Driver δ] in
theorem reckon (time : Nat) (s : Station σ δ) : W s (s.reckon time) := hW.aside s _ _ _ _

theorem rest (deadline : Option Nat) : Keeps W (rest deadline : Op σ δ Bool) := by
  intro s
  cases deadline with
  | none => exact hW.aside s _ _ _ _
  | some deadline =>
    by_cases hlate : deadline ≤ s.world.clock
    · rw [rest_late hlate]
      exact hW.reckon _ s
    · rw [rest_early (Nat.lt_of_not_le hlate)]
      exact hW.aside s _ _ _ _

variable [Link σ] (hlook : Keeps W (look : Op σ δ (Option Chip)))
include hlook

theorem pollFor (judge : Option Chip → Option β) (wait patience : Nat) :
    Keeps W (pollFor judge wait patience : Op σ δ (Option β)) :=
  pollFor_keeps hW.toClosed hlook hW.reckon hW.rest judge wait patience

end Scannable

namespace Waitable

variable {W : Station σ δ → Station σ δ → Prop} (hW : Waitable W)
include hW

theorem change (f : Reader σ δ → Reader σ δ)
    (hf : ∀ r, ∃ inserted pending, f r = { r with inserted, pending }) :
    Keeps (Resumed W) (change f) := by
  refine Keeps.change fun s => ?_
  obtain ⟨inserted, pending, hreader⟩ := hf s.reader
  rw [Station.onReader, hreader]
  exact ⟨hW.cards s inserted pending, rfl⟩

variable [Link σ] [Driver δ] (hlook : Keeps W (look : Op σ δ (Option Chip)))
include hlook

theorem waitInsertion (wait patience : Nat) :
    Keeps (Resumed W) (waitInsertion wait patience : Op σ δ (Option Chip)) := by
  have hC := hW.closed_resumed
  unfold Reader.waitInsertion
  refine Keeps.bind hC (Keeps.get hC) fun s => ?_
  refine Keeps.guarded hC _ ?_
  cases s.reader.pending with
  | some chip => exact Keeps.bind hC (hW.change _ fun _ => ⟨_, _, rfl⟩) fun _ => Keeps.pure hC _
  | none =>
    have hpoll := hW.pollFor hlook id wait patience
    refine Keeps.bind hC (hW.scanning hpoll _) fun seen => ?_
    cases seen with
    | none => exact Keeps.pure hC none
    | some chip => exact Keeps.bind hC (hW.change _ fun _ => ⟨_, _, rfl⟩) fun _ => Keeps.pure hC _

theorem waitRemoval (wait patience : Nat) :
    Keeps (Resumed W) (waitRemoval wait patience : Op σ δ Bool) := by
  have hC := hW.closed_resumed
  unfold Reader.waitRemoval
  refine Keeps.bind hC (Keeps.get hC) fun s => ?_
  refine Keeps.guarded hC _ ?_
  cases s.reader.inserted with
  | none => exact Keeps.pure hC true
  | some inserted =>
    have hpoll := hW.pollFor hlook (Removal.judge inserted) wait patience
    refine Keeps.bind hC (hW.scanning hpoll _) fun seen => ?_
    cases seen with
    | none => exact Keeps.pure hC false
    | some removal =>
      exact Keeps.bind hC (hW.change _ fun _ => ⟨_, _, rfl⟩) fun _ => Keeps.pure hC _

end Waitable

theorem waitable_watched : Waitable (Watched (σ := σ) J P) where
  toClosed := closed_watched
  aside _ _ _ _ _ := .of_same rfl rfl rfl
  cards _ _ _ := .of_same rfl rfl rfl

theorem after_atChannel (c : Channel σ) (act : Act σ δ α) (s : Station σ δ) :
    after (atChannel c act s) = s.back (after (act ⟨s.world, c, s.reader.driver⟩)) := by
  unfold atChannel
  cases act ⟨s.world, c, s.reader.driver⟩ with
  | ok a b => rfl
  | error e b => rfl

theorem quietly_some {c : Channel σ} {s : Station σ δ} (h : s.reader.channel = some c)
    (act : Act σ δ Unit) : quietly act s = after (atChannel c act s) := by
  unfold quietly
  rw [h]
  dsimp only
  cases atChannel c act s with
  | ok _ t => rfl
  | error e t => rfl

theorem atChannel_calm {act : Act σ δ α} (h : Keeps (Guards J P) act) (c : Channel σ) :
    Keeps (Calm J P) (atChannel c act) := by
  intro s
  rw [after_atChannel]
  exact ⟨⟨rfl, h ⟨s.world, c, s.reader.driver⟩⟩, rfl⟩

theorem quietly_calm {act : Act σ δ Unit} (h : Keeps (Guards J P) act) (s : Station σ δ) :
    Calm J P s (quietly act s) := by
  cases hchannel : s.reader.channel with
  | none =>
    unfold quietly
    rw [hchannel]
    exact closed_calm.refl s
  | some c =>
    rw [quietly_some hchannel]
    exact atChannel_calm h c s

theorem claim_calm (port : String) : Keeps (Calm J P) (claim (σ := σ) (δ := δ) port) := by
  intro s
  unfold claim
  cases hclaim : s.world.claim? port with
  | none => exact closed_calm.refl s
  | some world =>
    have hsent : world.sent = s.world.sent := by
      unfold World.claim? at hclaim
      split at hclaim
      · contradiction
      · rw [← Option.some.inj hclaim]
        rfl
    have hworld : Calm J P s { s with world } := .of_same rfl rfl hsent rfl
    exact closed_calm.trans (closed_calm.trans hworld (vacated_calm _)) (.of_same rfl rfl rfl rfl)

variable [Link σ]

theorem use_calm {act : Act σ δ α} (h : Keeps (Guards J P) act) : Keeps (Calm J P) (use act) := by
  intro s
  unfold use
  cases s.reader.channel with
  | none => exact closed_calm.refl s
  | some c =>
    dsimp only
    by_cases hc : s.reader.isConnected
    · rw [if_pos hc]
      exact atChannel_calm h c s
    · rw [if_neg hc]
      exact closed_calm.refl s

theorem use_connected (act : Act σ δ α) {s : Station σ δ} (h : s.reader.isConnected) :
    ∃ c, use act s = atChannel c act s := by
  unfold use
  cases hchannel : s.reader.channel with
  | none =>
    unfold isConnected at h
    rw [hchannel, Option.any_none, Bool.and_false] at h
    contradiction
  | some c =>
    refine ⟨c, ?_⟩
    dsimp only
    rw [if_pos h]

theorem use_apart (act : Act σ δ α) {s : Station σ δ} (h : ¬ s.reader.isConnected) :
    use act s = .error .notConnected s := by
  unfold use
  cases s.reader.channel with
  | none => rfl
  | some c =>
    dsimp only
    rw [if_neg h]

theorem keep_calm (c : Channel σ) : Keeps (Calm J P) (keep (δ := δ) c) := by
  intro s
  unfold keep
  by_cases h : ¬ s.reader.sharesPorts
  · rw [if_pos h]
    exact .of_same rfl rfl rfl rfl
  · rw [if_neg h]
    have hclaim := claim_calm (J := J) (P := P) c.name s
    cases hrun : claim c.name s with
    | ok _ t =>
      rw [hrun] at hclaim
      exact closed_calm.trans hclaim (.of_same rfl rfl rfl rfl)
    | error e t =>
      have hkept : Calm J P s (s.onReader ({ · with channel := some c })) :=
        .of_same rfl rfl rfl rfl
      have hclosed := quietly_calm (blind_guards (J := J) (P := P)).close
        (s.onReader ({ · with channel := some c }))
      exact closed_calm.trans (closed_calm.trans hkept hclosed) (.of_same rfl rfl rfl rfl)

theorem keep_channel {c : Channel σ} {s t : Station σ δ} (h : keep c s = .ok () t) :
    t.reader.channel.isSome := by
  unfold keep at h
  by_cases hs : ¬ s.reader.sharesPorts
  · rw [if_pos hs] at h
    injection h with _ ht
    rw [← ht]
    rfl
  · rw [if_neg hs] at h
    cases hrun : claim c.name s with
    | ok _ u =>
      rw [hrun] at h
      injection h with _ ht
      rw [← ht]
      rfl
    | error e u =>
      rw [hrun] at h
      contradiction

theorem closed_after (b : Bench σ δ) : Detection.closed b = after (Channel.close b) := by
  unfold Detection.closed
  cases Channel.close b with
  | ok _ b' => rfl
  | error e b' => rfl

variable [Driver δ]

theorem answers_after (b : Bench σ δ) :
    (Detection.answers b).2 = after (Detection.openProbe b) := by
  unfold Detection.answers
  cases Detection.openProbe b with
  | ok found b' => rfl
  | error e b' => rfl

/-- Candidates that give no answer leave no more behind than the one that gives one. -/
theorem search_guards (hprobe : Keeps (Guards J P) (Driver.probe : Act σ δ Bool)) (timeout : Nat)
    (candidates : List (Nat → σ)) (w : World) (d : δ) (hJ : J d) :
    J (Detection.search timeout candidates w d).2.2 ∧
      World.Wrote P w (Detection.search timeout candidates w d).2.1 := by
  have hguards := blind_guards (σ := σ) (J := J) (P := P)
  have hopen : Keeps (Guards J P) (Detection.openProbe : Act σ δ Bool) :=
    Keeps.bind hguards.toClosed hguards.openLink fun _ => hprobe
  induction candidates generalizing w d with
  | nil => exact ⟨hJ, .of_same rfl⟩
  | cons make rest ih =>
    obtain ⟨hJ', hw'⟩ := hopen ⟨w, Channel.onLink (make w.clock) timeout, d⟩ hJ
    rw [← answers_after] at hJ' hw'
    unfold Detection.search
    dsimp only
    by_cases hfound : (Detection.answers ⟨w, Channel.onLink (make w.clock) timeout, d⟩).1
    · rw [if_pos hfound]
      exact ⟨hJ', hw'⟩
    · rw [if_neg hfound]
      obtain ⟨hJ'', hw''⟩ := hguards.close _ hJ'
      rw [← closed_after] at hJ'' hw''
      obtain ⟨hJlast, hwlast⟩ := ih _ _ hJ''
      exact ⟨hJlast, (hw'.trans hw'').trans hwlast⟩

theorem run_guards (hprobe : Keeps (Guards J P) (Driver.probe : Act σ δ Bool)) (timeout : Nat)
    (scanner : Scanner σ) (w : World) (d : δ) (hJ : J d) :
    J (Detection.run timeout scanner w d).driver ∧
      World.Wrote P w (Detection.run timeout scanner w d).world := by
  unfold Detection.run
  cases scanner.find scanner.looks with
  | error e => exact ⟨hJ, .of_same rfl⟩
  | ok candidates =>
    have hnoted : World.Wrote P w (w.note .scanned) := .of_same rfl
    obtain ⟨hJ', hw⟩ := search_guards hprobe timeout candidates (w.note .scanned) d hJ
    exact ⟨hJ', hnoted.trans hw⟩

/-- A station after a detection, before what it found is kept. -/
def looked (scanner : Scanner σ) (s : Station σ δ) : Station σ δ :=
  let out := Detection.run s.reader.settings.detectionTimeout scanner s.world s.reader.driver
  ⟨out.world, { s.reader with driver := out.driver, scanner := some out.scanner }⟩

/-- Finding a port in stages: what stands in the way, the detection, and what becomes of its
channel. -/
theorem detect_eq (s : Station σ δ) : detect s =
    match s.reader.scanner with
    | none => .error (.badState .noLink) s
    | some scanner =>
      if ¬ s.reader.settings.detectPorts then .error (.badState .detectionDisabled) s
      else
        match (Detection.run s.reader.settings.detectionTimeout scanner s.world
          s.reader.driver).result with
        | .error e => .error (.link e) (looked scanner s)
        | .ok none => .error .noReaderFound (looked scanner s)
        | .ok (some c) => keep c (looked scanner s) := by
  unfold detect
  rw [get_bind_run]
  cases s.reader.scanner with
  | none => rfl
  | some scanner =>
    dsimp only
    by_cases hports : ¬ s.reader.settings.detectPorts
    · rw [if_pos hports, if_pos hports]
      rfl
    · rw [if_neg hports, if_neg hports, get_bind_run, set_bind_run]
      cases hresult : (Detection.run s.reader.settings.detectionTimeout scanner s.world
        s.reader.driver).result with
      | error e => rfl
      | ok found =>
        cases found with
        | none => rfl
        | some c => rfl

theorem detect_calm (s : Station σ δ)
    (hprobe : s.reader.scanner.isSome → Keeps (Guards J P) (Driver.probe : Act σ δ Bool)) :
    Calm J P s (after (detect s)) := by
  rw [detect_eq]
  cases hscanner : s.reader.scanner with
  | none => exact closed_calm.refl s
  | some scanner =>
    have hlooked : Calm J P s (looked scanner s) := by
      refine ⟨⟨?_, ?_⟩, rfl⟩
      · rw [hscanner]
        rfl
      · intro hJ
        exact run_guards (hprobe (by rw [hscanner]; rfl)) _ scanner s.world s.reader.driver hJ
    dsimp only
    split
    · exact closed_calm.refl s
    · split
      · exact hlooked
      · exact hlooked
      · exact closed_calm.trans hlooked (keep_calm _ _)

theorem openChannel_calm (s : Station σ δ)
    (hprobe : s.reader.scanner.isSome → Keeps (Guards J P) (Driver.probe : Act σ δ Bool)) :
    Calm J P s (after (openChannel s)) := by
  unfold openChannel
  rw [get_bind_run]
  cases s.reader.channel with
  | some c => exact atChannel_calm blind_guards.openLink c s
  | none => exact detect_calm s hprobe

section

variable (hchip : Keeps (Guards J P) (Driver.chipInAir : Act σ δ (Option Chip)))
include hchip

theorem look_watched : Keeps (Watched J P) (look : Op σ δ (Option Chip)) := by
  have hguards := blind_guards (σ := σ) (J := J) (P := P)
  unfold look
  refine Keeps.bind closed_watched (Keeps.get closed_watched) fun s t => (use_calm ?_ t).toWatched
  exact Keeps.bind hguards.toClosed (hguards.onWorld fun _ => rfl) fun _ => hchip

theorem waitInsertion_calm (wait patience : Nat) :
    Keeps (Calm J P) (waitInsertion wait patience : Op σ δ (Option Chip)) := by
  intro s
  obtain ⟨hwatched, hstate⟩ :=
    waitable_watched.waitInsertion (look_watched hchip) wait patience s
  exact ⟨hwatched, hstate⟩

theorem waitRemoval_calm (wait patience : Nat) :
    Keeps (Calm J P) (waitRemoval wait patience : Op σ δ Bool) := by
  intro s
  obtain ⟨hwatched, hstate⟩ := waitable_watched.waitRemoval (look_watched hchip) wait patience s
  exact ⟨hwatched, hstate⟩

end

/-- Whatever comes of the release and of the closing, the reader is disconnected. -/
theorem disconnect_watched (hrelease : Keeps (Guards J P) (Driver.release : Act σ δ Unit))
    (s : Station σ δ) :
    Watched J P s (after (disconnect s)) ∧
      (after (disconnect s)).reader.state = .disconnected := by
  have hgiven : Watched J P s (s.onReader
      ({ · with state := .disconnected, inserted := none, pending := none })) :=
    .of_same rfl rfl rfl
  generalize hfirst : s.onReader
    ({ · with state := .disconnected, inserted := none, pending := none }) = first at hgiven
  have hstate : first.reader.state = .disconnected := by
    rw [← hfirst]
    rfl
  have hcalm : Calm J P first (after (disconnect s)) := by
    unfold disconnect
    rw [hfirst]
    dsimp only
    cases first.reader.channel with
    | none => exact closed_calm.refl first
    | some c =>
      dsimp only
      by_cases hopen : ¬ c.isConnected
      · rw [if_pos hopen]
        exact forget_calm first
      · rw [if_neg hopen]
        have hreleased := quietly_calm hrelease first
        have hclose := atChannel_calm (blind_guards (J := J) (P := P)).close
          ((quietly Driver.release first).reader.channel.getD c) (quietly Driver.release first)
        cases hrun : atChannel ((quietly Driver.release first).reader.channel.getD c)
            Channel.close (quietly Driver.release first) with
        | ok _ t =>
          rw [hrun] at hclose
          exact closed_calm.trans (closed_calm.trans hreleased hclose) (forget_calm t)
        | error e t =>
          rw [hrun] at hclose
          exact closed_calm.trans (closed_calm.trans hreleased hclose) (forget_calm t)
  exact ⟨hgiven.trans hcalm.toWatched, hcalm.state_eq.trans hstate⟩

/-- Configuring, and the cleaning up after it, keep what the driver guards. -/
theorem start_watched (hconfigure : Keeps (Guards J P) (Driver.configure : Act σ δ Unit))
    (s : Station σ δ) : Watched J P s (after (start s)) := by
  have hguards := blind_guards (σ := σ) (J := J) (P := P)
  unfold start
  cases s.reader.channel with
  | none => exact .of_same rfl rfl rfl
  | some c =>
    have hact : Keeps (Guards J P) (do
        Channel.setTimeout s.reader.settings.dataTimeout
        Driver.configure : Act σ δ Unit) :=
      Keeps.bind hguards.toClosed (hguards.setTimeout _) fun _ => hconfigure
    have hat := atChannel_calm hact c s
    dsimp only
    cases hrun : atChannel c _ s with
    | ok _ t =>
      rw [hrun] at hat
      exact hat.toWatched.trans (.of_same rfl rfl rfl)
    | error e t =>
      rw [hrun] at hat
      have hclosed := closed_calm.trans (quietly_calm hguards.close t) (forget_calm _)
      exact (hat.toWatched.trans hclosed.toWatched).trans (.of_same rfl rfl rfl)

theorem detect_channel {s t : Station σ δ} (h : detect s = .ok () t) :
    t.reader.channel.isSome := by
  rw [detect_eq] at h
  split at h
  · contradiction
  · split at h
    · contradiction
    · split at h
      · contradiction
      · contradiction
      · exact keep_channel h

theorem openChannel_channel {s t : Station σ δ} (h : openChannel s = .ok () t) :
    t.reader.channel.isSome := by
  unfold openChannel at h
  rw [get_bind_run] at h
  cases hchannel : s.reader.channel with
  | none =>
    rw [hchannel] at h
    exact detect_channel h
  | some c =>
    rw [hchannel] at h
    dsimp only [atChannel] at h
    cases hrun : Channel.openLink (⟨s.world, c, s.reader.driver⟩ : Bench σ δ) with
    | ok _ b =>
      rw [hrun] at h
      injection h with _ ht
      rw [← ht]
      rfl
    | error e b =>
      rw [hrun] at h
      contradiction

theorem connect_connected {s : Station σ δ} (h : s.reader.isConnected) :
    connect s = .ok () s := by
  unfold connect
  rw [get_bind_run, if_pos h]
  rfl

theorem connect_apart {s : Station σ δ} (h : ¬ s.reader.isConnected) :
    connect s = (openChannel >>= fun _ => start) s := by
  unfold connect
  rw [get_bind_run, if_neg h]

/-- The bench at which a reader with a channel is configured. -/
def bench? (s : Station σ δ) : Option (Bench σ δ) :=
  s.reader.channel.map fun c =>
    ⟨s.world, { c with timeout := s.reader.settings.dataTimeout }, s.reader.driver⟩

section

variable {s : Station σ δ} {b b' : Bench σ δ} (hb : bench? s = some b)
include hb

theorem configure_bench : ∃ c, s.reader.channel = some c ∧
    (Channel.setTimeout s.reader.settings.dataTimeout >>= fun _ => Driver.configure)
      (⟨s.world, c, s.reader.driver⟩ : Bench σ δ) = Driver.configure b := by
  obtain ⟨c, hchannel, hbench⟩ := Option.map_eq_some_iff.mp hb
  refine ⟨c, hchannel, ?_⟩
  rw [← hbench]
  rfl

theorem start_configured (h : Driver.configure b = .ok () b') :
    start s = .ok () ((s.back b').onReader ({ · with
      state := if Driver.isAuthenticated b'.driver then .authenticated else .connected })) := by
  obtain ⟨c, hchannel, hact⟩ := configure_bench hb
  unfold start
  rw [hchannel]
  dsimp only [atChannel]
  rw [hact, h]
  rfl

theorem start_unconfigured {e : ReaderError} (h : Driver.configure b = .error e b') :
    start s = .error e ((s.back (after (Channel.close b'))).forget.onReader
      ({ · with state := .disconnected })) := by
  obtain ⟨c, hchannel, hact⟩ := configure_bench hb
  have hclosed : quietly Channel.close (s.back b') = s.back (after (Channel.close b')) :=
    (quietly_some rfl _).trans (after_atChannel b'.channel _ _)
  unfold start
  rw [hchannel]
  dsimp only [atChannel]
  rw [hact, h]
  dsimp only
  rw [hclosed]

theorem start_ok (h : Driver.configure b = .ok () b') :
    ∃ t, start s = .ok () t ∧ t.reader.driver = b'.driver ∧
      t.reader.state = if Driver.isAuthenticated b'.driver then .authenticated else .connected :=
  ⟨_, start_configured hb h, rfl, rfl⟩

/-- A reader that cannot be configured is disconnected, and the driver is left as it is. -/
theorem start_error {e : ReaderError} (h : Driver.configure b = .error e b') :
    ∃ t, start s = .error e t ∧ t.reader.driver = b'.driver ∧ t.reader.state = .disconnected := by
  refine ⟨_, start_unconfigured hb h, ?_, rfl⟩
  have hclosed := (blind_guards (J := (· = b'.driver)) (P := fun _ => True)).close b' rfl
  have hforgotten := forget_calm (J := (· = b'.driver)) (P := fun _ => True)
    (s.back (after (Channel.close b')))
  exact (hforgotten.guards hclosed.1).1

theorem start_driver :
    (after (start s)).reader.driver = (after (Driver.configure b)).driver := by
  cases hrun : (Driver.configure b : EStateM.Result ReaderError (Bench σ δ) Unit) with
  | ok _ b' =>
    obtain ⟨t, hstart, hdriver, -⟩ := start_ok hb hrun
    rw [hstart]
    exact hdriver
  | error e b' =>
    obtain ⟨t, hstart, hdriver, -⟩ := start_error hb hrun
    rw [hstart]
    exact hdriver

end

end Reader

end CardReader
