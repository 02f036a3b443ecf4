import CardReader.Proofs.Reader.Looks

namespace CardReader

open Run Act

variable {σ δ α β : Type}

/-- The guards that suppress events are as many as before, and nothing was noted as a look. -/
structure Bench.Silent (b b' : Bench σ δ) : Prop where
  guards_eq : b'.world.log.guards = b.world.log.guards
  looks_eq : b'.world.looks = b.world.looks

namespace Bench

theorem closed_silent : Closed (Silent (σ := σ) (δ := δ)) where
  refl _ := ⟨rfl, rfl⟩
  trans h h' := ⟨h'.guards_eq.trans h.guards_eq, h'.looks_eq.trans h.looks_eq⟩

theorem ofLink_silent (op : Nat → σ → Outcome σ α) : Keeps Silent (ofLink (δ := δ) op) := by
  intro b
  rw [after_ofLink]
  exact ⟨rfl, rfl⟩

theorem bystander_silent [Link σ] : Bystander (Silent (σ := σ) (δ := Unit)) where
  toClosed := closed_silent
  receive _ := ofLink_silent _
  onBuffer _ _ := ⟨rfl, rfl⟩
  onLast _ _ := ⟨rfl, rfl⟩
  send _ := ofLink_silent _
  noted _ _ _ := ⟨rfl, rfl⟩
  later _ _ := ⟨rfl, rfl⟩

end Bench

/-- No driver touches the guards. -/
theorem AnyDevice.chipInAir_silent [Link σ] :
    Keeps Bench.Silent (Driver.chipInAir : Act σ AnyDevice (Option Chip)) := by
  intro b
  obtain ⟨hguards, hlooks⟩ := chipInAir_aside Bench.bystander_silent b
  exact ⟨hguards, hlooks⟩

theorem World.isQuiet_of_guarded {w : World} (h : 0 < w.log.guards) : w.isQuiet = true := by
  unfold isQuiet LogSwitch.isEnabled
  rw [beq_false_of_ne (Nat.ne_of_gt h), Bool.and_false]
  rfl

namespace Station

/-- The state of the reader and the guards are as before. Each look of the meantime took place in
`state` and, if it was to be `hushed`, with events suppressed. -/
structure Traceless (state : ReaderState) (hushed : Prop) (s s' : Station σ δ) : Prop where
  state_eq : s'.reader.state = s.reader.state
  guards_eq : s'.world.log.guards = s.world.log.guards
  looked : ∃ new, s'.world.looks = new ++ s.world.looks ∧ ∀ e ∈ new, ∃ time quiet,
    e = .looked time state quiet ∧ (hushed → quiet = true)

theorem Traceless.of_same {state : ReaderState} {hushed : Prop} {s t u : Station σ δ}
    (h : Traceless state hushed s t) (hworld : u.world = t.world)
    (hstate : u.reader.state = t.reader.state) : Traceless state hushed s u := by
  refine ⟨hstate.trans h.state_eq, ?_, ?_⟩
  · rw [hworld]
    exact h.guards_eq
  · rw [hworld]
    exact h.looked

theorem Traceless.unlooked {state : ReaderState} {hushed : Prop} {s s' : Station σ δ}
    (hstate : s'.reader.state = s.reader.state) (hguards : s'.world.log.guards = s.world.log.guards)
    (hlooks : s'.world.looks = s.world.looks) : Traceless state hushed s s' :=
  ⟨hstate, hguards, [], hlooks, nofun⟩

/-- The same within a scan: the state is the one it has, and a guard there is suppresses events. -/
def Scanned (s s' : Station σ δ) : Prop := Traceless s.reader.state (0 < s.world.log.guards) s s'

theorem closed_scanned : Closed (Scanned (σ := σ) (δ := δ)) where
  refl _ := .unlooked rfl rfl rfl
  trans := by
    intro s t u hst htu
    obtain ⟨new, ht, hnew⟩ := hst.looked
    obtain ⟨newer, hu, hnewer⟩ := htu.looked
    rw [hst.state_eq, hst.guards_eq] at hnewer
    refine ⟨htu.state_eq.trans hst.state_eq, htu.guards_eq.trans hst.guards_eq, newer ++ new, ?_,
      ?_⟩
    · rw [hu, ht, List.append_assoc]
    · intro e he
      obtain he | he := List.mem_append.mp he
      · exact hnewer e he
      · exact hnew e he

end Station

namespace Reader

open Station

theorem rest_scanned [Driver δ] (deadline : Option Nat) :
    Keeps Scanned (rest deadline : Op σ δ Bool) := by
  intro s
  cases deadline with
  | none => exact .unlooked rfl rfl rfl
  | some deadline =>
    by_cases hlate : deadline ≤ s.world.clock
    · rw [rest_late hlate]
      exact .unlooked rfl rfl rfl
    · rw [rest_early (by omega)]
      exact .unlooked rfl rfl rfl

/-- A scan has a state and a guard of its own, and takes both away with it. -/
theorem scanning_traceless {op : Op σ δ β} (h : Keeps Scanned op) (shown : Bool) :
    Keeps (Traceless .scanning (shown = false)) (scanning shown op) := by
  intro s
  obtain ⟨-, hguards, new, hlooks, hnew⟩ := h (entered shown s)
  rw [after_scanning]
  refine ⟨rfl, ?_, new, ?_, fun e he => ?_⟩
  · cases shown with
    | true => exact hguards
    | false => exact congrArg (· - 1) hguards
  · rw [exited_looks, hlooks]
    cases shown <;> rfl
  · obtain ⟨time, quiet, hlooked, hquiet⟩ := hnew e he
    cases shown with
    | true => exact ⟨time, quiet, hlooked, nofun⟩
    | false =>
      -- The guard of the scan itself is one of those that are there during the look.
      exact ⟨time, quiet, hlooked, fun _ => hquiet (Nat.succ_pos _)⟩

variable [Link σ] [Driver δ] (hchip : Keeps Bench.Silent (Driver.chipInAir : Act σ δ (Option Chip)))
include hchip

theorem look_scanned : Keeps Scanned (look : Op σ δ (Option Chip)) := by
  intro s
  by_cases hc : s.reader.isConnected
  · obtain ⟨c, -, -, hlook⟩ := look_connected hc
    obtain ⟨hguards, hlooks⟩ := hchip ⟨s.world.note (sighting s), c, s.reader.driver⟩
    rw [hlook, after_atChannel]
    refine ⟨rfl, hguards, [sighting s], hlooks, ?_⟩
    intro e he
    rw [List.mem_singleton.mp he]
    exact ⟨s.world.clock, s.world.isQuiet, rfl, World.isQuiet_of_guarded⟩
  · have hlook : look s = .error .notConnected s := use_apart _ hc
    rw [hlook]
    exact closed_scanned.refl s

theorem wait_traceless (shown : Bool) (judge : Option Chip → Option β) (wait patience : Nat) :
    Keeps (Traceless .scanning (shown = false))
      (scanning shown (pollFor judge wait patience) : Op σ δ (Option β)) :=
  scanning_traceless
    (pollFor_keeps closed_scanned (look_scanned hchip) (fun _ _ => .unlooked rfl rfl rfl)
      rest_scanned judge wait patience) shown

theorem waitInsertion_traceless (wait patience : Nat) (s : Station σ δ) :
    Traceless .scanning (s.reader.settings.seeInsertionLog = false) s
      (after (waitInsertion wait patience s)) := by
  by_cases hc : s.reader.isConnected
  · cases hpending : s.reader.pending with
    | some chip =>
      rw [waitInsertion_pending wait patience hc hpending]
      exact .unlooked rfl rfl rfl
    | none =>
      obtain ⟨hworld, hstate⟩ := after_waitInsertion wait patience hc hpending
      exact (wait_traceless hchip _ id wait patience s).of_same hworld hstate
  · rw [waitInsertion_apart wait patience hc]
    exact .unlooked rfl rfl rfl

theorem waitRemoval_traceless (wait patience : Nat) (s : Station σ δ) :
    Traceless .scanning (s.reader.settings.seeRemovalLog = false) s
      (after (waitRemoval wait patience s)) := by
  by_cases hc : s.reader.isConnected
  · cases hinserted : s.reader.inserted with
    | none =>
      rw [waitRemoval_none wait patience hc hinserted]
      exact .unlooked rfl rfl rfl
    | some inserted =>
      obtain ⟨hworld, hstate⟩ := after_waitRemoval wait patience hc hinserted
      exact (wait_traceless hchip _ (Removal.judge inserted) wait patience s).of_same hworld hstate
  · rw [waitRemoval_apart wait patience hc]
    exact .unlooked rfl rfl rfl

end Reader

namespace Stid.Device

variable {d₀ d : Device} {K : Keys → SessionState → Prop}

theorem Kept.mode_eq (h : Kept d₀ K d) : d.framer.mode = d₀.framer.mode := by
  obtain ⟨keys, session, chained, lastCode, nonces, -, rfl⟩ := h
  rfl

/-- What keeps the settings of a device gives its mode back. -/
theorem mode_of_kept {act : Act σ Device α}
    (h : ∀ d₀, Keeps (Guards (Kept d₀ Unconstrained) fun _ => True) act) (b : Bench σ Device) :
    (after (act b)).driver.framer.mode = b.driver.framer.mode :=
  (h b.driver b (.refl trivial)).1.mode_eq

end Stid.Device

/-- A wait for a card to come or to go leaves the state of the reader and the guards as they were,
also when it fails, and looks in a scan. A probe and the handshakes give the mode back, also when
they fail. -/
theorem Reader.leaves_no_trace [Link σ] [Driver δ]
    (hchip : Keeps Bench.Silent (Driver.chipInAir : Act σ δ (Option Chip))) :
    (∀ (wait patience : Nat) (s : Station σ δ),
      Station.Traceless .scanning (s.reader.settings.seeInsertionLog = false) s
          (after (waitInsertion wait patience s)) ∧
        Station.Traceless .scanning (s.reader.settings.seeRemovalLog = false) s
          (after (waitRemoval wait patience s))) ∧
    ∀ b : Bench σ Stid.Device,
      (after (Stid.Device.probe b)).driver.framer.mode = b.driver.framer.mode ∧
        (after (Stid.Device.authenticateHmac b)).driver.framer.mode = b.driver.framer.mode ∧
        (after (Stid.Device.authenticateAes b)).driver.framer.mode = b.driver.framer.mode := by
  refine ⟨fun wait patience s => ⟨?_, ?_⟩, fun b => ⟨?_, ?_, ?_⟩⟩
  · exact waitInsertion_traceless hchip wait patience s
  · exact waitRemoval_traceless hchip wait patience s
  · exact Stid.Device.mode_of_kept (fun _ => Stid.Device.probe_kept trivial) b
  · exact Stid.Device.mode_of_kept
      (fun _ => Stid.Device.authenticateHmac_kept fun _ => trivial) b
  · exact Stid.Device.mode_of_kept (fun _ => Stid.Device.authenticateAes_kept fun _ => trivial) b

namespace Reader

/-- A reader that has seen no card once and then falls silent, in a program that has suppressed
events twice already. -/
def interrupted : Station ScriptedLink AnyDevice where
  world := { log := { guards := 2 } }
  reader :=
    { Reader.onLink (.promag {})
        { name := "sim0", connected := true,
          reactions := [.deliver [(40, .chunk [0x02, 0x0D])]] }
        {} with
      state := .connected }

/-- The second look fails, and the wait with it. -/
theorem leaves_no_trace_interrupted :
    Keeps Bench.Silent (Driver.chipInAir : Act ScriptedLink AnyDevice (Option Chip)) ∧
      outcome (waitInsertion 1000 0 interrupted) = .error (.timeout 3000) ∧
      (after (waitInsertion 1000 0 interrupted)).reader.state = .connected ∧
      (after (waitInsertion 1000 0 interrupted)).world.log.guards = 2 ∧
      (after (waitInsertion 1000 0 interrupted)).world.looks =
        [.looked 290 .scanning true, .looked 0 .scanning true] := by
  have hlaw := (leaves_no_trace (AnyDevice.chipInAir_silent (σ := ScriptedLink))).1 1000 0
    interrupted
  exact ⟨AnyDevice.chipInAir_silent, by decide +kernel, hlaw.1.state_eq, hlaw.1.guards_eq,
    by decide +kernel⟩

end Reader

end CardReader
