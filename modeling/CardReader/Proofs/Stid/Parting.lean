import CardReader.Promag.Device
import CardReader.Proofs.Reader.Cards
import CardReader.Proofs.Stid.Wire

namespace CardReader

open Run Act

variable {σ δ : Type} [Link σ]

omit [Link σ] in
theorem Station.forget_driver (s : Station σ δ) : s.forget.reader.driver = s.reader.driver := by
  by_cases h : s.reader.scanner.isSome
  · rw [forget_found h]
  · rw [forget_given h]

namespace Reader

variable [Driver δ]

/-- Over an open link, disconnecting is releasing as far as the driver goes. -/
theorem disconnect_open {s : Station σ δ} {c : Channel σ} (hchannel : s.reader.channel = some c)
    (hopen : c.isConnected) :
    (after (disconnect s)).reader.driver =
      (after (Driver.release (⟨s.world, c, s.reader.driver⟩ : Bench σ δ))).driver := by
  have hclosed : ∀ (c : Channel σ) (t u : Station σ δ), u = after (atChannel c Channel.close t) →
      u.forget.reader.driver = t.reader.driver := by
    rintro c t _ rfl
    have hclose := atChannel_calm (blind_guards (σ := σ) (J := (· = t.reader.driver))
      (P := fun _ => True)).close c t
    rw [Station.forget_driver]
    exact (hclose.guards rfl).1
  unfold disconnect
  dsimp only [Station.onReader]
  rw [hchannel]
  dsimp only
  rw [if_neg (not_not_intro hopen), quietly_some rfl, after_atChannel]
  split
  · rename_i t hrun
    exact hclosed _ _ t (by rw [hrun]; rfl)
  · rename_i e t hrun
    exact hclosed _ _ t (by rw [hrun]; rfl)

theorem disconnect_closed {s : Station σ δ} (h : ¬ s.reader.channel.any Channel.isConnected) :
    (after (disconnect s)).reader.driver = s.reader.driver := by
  unfold disconnect
  dsimp only [Station.onReader]
  cases hchannel : s.reader.channel with
  | none => rfl
  | some c =>
    rw [hchannel, Option.any_some] at h
    dsimp only
    rw [if_pos h]
    exact Station.forget_driver _

end Reader

namespace Stid

open Device Station Reader

/-- There is no key and no chained block. -/
structure Device.Cleared (d : Device) : Prop where
  keyless : d.framer.keys = {}
  unchained : d.framer.chained = none

theorem Device.release_cleared (b : Bench σ Device) : (after (release b)).driver.Cleared := by
  unfold release
  rw [get_bind_run]
  split
  · rw [after_resetAuthenticate]
    exact ⟨rfl, rfl⟩
  · exact ⟨rfl, rfl⟩

/-- An operation, or a change of the link on its own. -/
inductive Happening (σ : Type) where
  | operation (op : Operation)
  | incident (change : σ → σ)

namespace Happening

def run : Happening σ → Op σ Device Unit
  | operation op => op.run
  | incident change => (Reader.Operation.incident change).run

def runs (s : Station σ Device) (happenings : List (Happening σ)) : Station σ Device :=
  happenings.foldl (fun s h => after (h.run s)) s

end Happening

namespace Course

def meet (c : Course σ) : Happening σ → Course σ
  | .operation op => c.step op
  | .incident change => { c with station := after ((Happening.incident change).run c.station) }

def through (s : Station σ Device) (happenings : List (Happening σ)) : Course σ :=
  happenings.foldl meet ⟨s, none, []⟩

/-- A course keeps account of what happens and does not change it. -/
theorem station_through (s : Station σ Device) (happenings : List (Happening σ)) :
    (through s happenings).station = Happening.runs s happenings := by
  have h : ∀ c : Course σ,
      (happenings.foldl meet c).station = Happening.runs c.station happenings := by
    induction happenings with
    | nil => exact fun _ => rfl
    | cons happening happenings ih =>
      intro c
      rw [List.foldl_cons, ih]
      cases happening with
      | operation op =>
        change Happening.runs (c.step op).station happenings = _
        rw [station_step]
        rfl
      | incident change => rfl
  exact h _

end Course

theorem Fair.through {s : Station σ Device} {c : Course σ}
    (hmode : s.reader.driver.framer.mode = s.reader.driver.configured) (h : Fair s c)
    (happenings : List (Happening σ)) : Fair s (happenings.foldl Course.meet c) := by
  induction happenings generalizing c with
  | nil => exact h
  | cons happening happenings ih =>
    cases happening with
    | operation op => exact ih (h.step hmode op)
    | incident change =>
      exact ih ⟨⟨h.scanner_eq, h.complete, h.lawful⟩, h.driver_kept⟩

/-- Nothing crosses from one connection to the next but over a link that closed on its own. Of any
reader: disconnecting forgets every card, and each card that is remembered, or that a wait returns,
was seen on this connection, unless the link was opened again on a reader that was in use and
remembered it then. Of a STid STR reader: disconnecting over an open link drops keys and chained
block, over a closed one it leaves the driver alone; a key was agreed on when the link was last
opened. -/
theorem nothing_crosses [Driver δ] (s : Station σ δ) (hs : s.reader.New)
    (ops : List (Reader.Operation σ δ)) (r : Station σ Device) (hr : r.reader.driver.Unused)
    (happenings : List (Happening σ)) :
    let m := Memory.run s ops
    let c := Course.through r happenings
    (m.station = Reader.Operation.runs s ops ∧
      (after (disconnect m.station)).remembered = [] ∧
      (m.inUse = false → m.station.remembered = []) ∧
      (∀ chip ∈ m.station.remembered, chip ∈ m.seen ++ m.carried) ∧
      ∀ wait patience chip t, waitInsertion wait patience m.station = .ok (some chip) t →
        chip ∈ insertionSightings wait patience m.station ++ (m.seen ++ m.carried)) ∧
    (c.station = Happening.runs r happenings ∧
      AgreedOn c.connection c.station.reader.driver.framer.keys ∧
      if c.station.reader.channel.any Channel.isConnected then
        (after (disconnect c.station)).reader.driver.Cleared
      else (after (disconnect c.station)).reader.driver = c.station.reader.driver) := by
  intro m c
  have hhonest : m.Honest := (Memory.honest_new hs).run ops
  have hfair : Fair r c := hr.fair.through hr.mode_eq happenings
  refine ⟨⟨Memory.station_run s ops, (disconnect_forgets _).2, ?_, hhonest.known, ?_⟩,
    Course.station_through r happenings, ?_, ?_⟩
  · intro hfree
    exact (hhonest.apart hfree).2
  · intro wait patience chip t hwait
    exact hhonest.returned hwait
  · obtain ⟨keys, _, _, _, _, hkeys, hdriver⟩ := hfair.driver_kept
    rw [hdriver]
    exact hkeys
  · by_cases hopen : c.station.reader.channel.any Channel.isConnected
    · obtain ⟨channel, hchannel, hconnected⟩ := (Option.any_eq_true _ _).mp hopen
      rw [if_pos hopen, disconnect_open hchannel hconnected]
      exact release_cleared _
    · rw [if_neg hopen]
      exact disconnect_closed hopen

/-- The link closes on its own. -/
def dropped (link : ScriptedLink) : ScriptedLink := { link with connected := false }

/-- A reader with one card in its field. -/
def loaded : Station ScriptedLink Promag.Device where
  world := {}
  reader := .onLink {}
    { name := "sim0"
      reactions :=
        [.deliver [(0, .chunk [0x02, 0x50, 0x0D])], .deliver [(0, .chunk [0x02, 0x30, 0x41, 0x0D])],
          .deliver [(0, .chunk [0x02, 0x50, 0x0D])]] } { dataTimeout := 200 }

/-- A card is shown, and then the link drops. -/
def shown : List (Reader.Operation ScriptedLink Promag.Device) :=
  [.connect, .waitInsertion 0 1, .incident dropped]

theorem nothing_crosses_loaded :
    loaded.reader.New ∧ silenced.reader.driver.Unused ∧
      (∀ chip ∈ (Memory.run loaded (shown ++ [.connect])).station.remembered,
        chip ∈ (Memory.run loaded (shown ++ [.connect])).seen ++
          (Memory.run loaded (shown ++ [.connect])).carried) ∧
      let c := Course.through silenced [.operation .connect, .incident dropped]
      AgreedOn c.connection c.station.reader.driver.framer.keys := by
  have hs : loaded.reader.New := Reader.new_onLink _ _ _
  have hr : silenced.reader.driver.Unused := ⟨rfl, rfl⟩
  obtain ⟨⟨-, -, -, hknown, -⟩, -, hagreed, -⟩ :=
    nothing_crosses loaded hs (shown ++ [.connect]) silenced hr
      [.operation .connect, .incident dropped]
  exact ⟨hs, hr, hknown, hagreed⟩

theorem keys_silenced : (Operation.runs silenced [.connect]).reader.driver.framer.keys ≠ {} := by
  obtain ⟨hstate, -⟩ := silenced_runs
  have hr : silenced.reader.driver.Unused := ⟨rfl, rfl⟩
  have hstart : Standing silenced false := Standing.of_state (by decide)
  have hstanding : Standing (Operation.runs silenced [.connect]) false := hstart.run [.connect]
  have hsecure := (hstanding hstate).1 rfl
  obtain ⟨keys, _, _, _, _, -, hdriver⟩ := (hr.fair.run hr.mode_eq [.connect]).driver_kept
  have hsigned : (Operation.runs silenced [.connect]).reader.driver.configured.isSigned := by
    rw [← Course.station_run, Course.run, hdriver]
    exact (by decide : Mode.signed.isSigned)
  intro hkeys
  have hheld := hsecure.hmac_held hsigned
  rw [hkeys] at hheld
  exact Bool.false_ne_true hheld

theorem disconnect_dropped (s : Station ScriptedLink Device) :
    (after (disconnect (after ((Happening.incident dropped).run s)))).reader.driver =
      s.reader.driver := by
  have hclosed :
      ¬ (after ((Happening.incident dropped).run s)).reader.channel.any Channel.isConnected := by
    change ¬ (s.reader.channel.map fun c => { c with link := dropped c.link }).any _ = true
    cases s.reader.channel with
    | none => exact Bool.false_ne_true
    | some c => exact Bool.false_ne_true
  exact disconnect_closed hclosed

/-- A dropped link takes a card to the next connection, and keys beyond the disconnecting. -/
theorem crosses_dropped :
    (reopens (Reader.Operation.runs loaded shown) ∧
      succeeded (Reader.connect (Reader.Operation.runs loaded shown)) ∧
      (Memory.run loaded (shown ++ [.connect])).seen = [] ∧
      (Reader.Operation.runs loaded (shown ++ [.connect])).reader.inserted =
        some (Chip.generic [0x0A])) ∧
    let s := after ((Happening.incident dropped).run (Operation.runs silenced [.connect]))
    (after (disconnect s)).reader.state = .disconnected ∧
      (after (disconnect s)).reader.driver.framer.keys ≠ {} := by
  refine ⟨by decide +kernel, (disconnect_forgets _).1, ?_⟩
  rw [disconnect_dropped]
  exact keys_silenced

end Stid

end CardReader
