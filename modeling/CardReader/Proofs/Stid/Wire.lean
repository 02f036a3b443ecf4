import CardReader.Proofs.Stid.Standing

namespace CardReader

open Run Act

namespace World

/-- What was written from one moment to a later one, the last first. -/
def writtenSince (w w' : World) : List Bytes := w'.sent.take (w'.sent.length - w.sent.length)

theorem writtenSince_eq {w w' : World} {new : List Bytes} (h : w'.sent = new ++ w.sent) :
    w.writtenSince w' = new := by
  unfold writtenSince
  rw [h, List.length_append, Nat.add_sub_cancel, List.take_left]

theorem Wrote.writtenSince {P : Bytes → Prop} {w w' : World} (h : Wrote P w w') :
    w'.sent = w.writtenSince w' ++ w.sent ∧ ∀ frame ∈ w.writtenSince w', P frame := by
  obtain ⟨new, hsent, hP⟩ := h
  rw [writtenSince_eq hsent]
  exact ⟨hsent, hP⟩

end World

namespace Stid

open Device Station

variable {σ : Type}

/-- A reader that was set up but never connected. -/
structure Device.Unused (d : Device) : Prop where
  mode_eq : d.framer.mode = d.configured
  keyless : d.framer.keys = {}

theorem Device.unused_ofOptions {o : StidOptions} {d : Device} (h : ofOptions o = .ok d) :
    d.Unused := by
  obtain ⟨hmacKey, -, hrest⟩ := Run.of_bind_eq_ok h
  obtain ⟨aesKey, -, hmade⟩ := Run.of_bind_eq_ok hrest
  obtain rfl := Except.ok.inj hmade
  exact ⟨rfl, rfl⟩

/-- Where a frame is written: in search of a port, while a session is set up, or at work, on the
connection that was set up at a bench. -/
inductive Stage (σ : Type) where
  | finding
  | settingUp
  | working (connection : Option (Bench σ Device))

/-- Operations in the making: where they led, the bench at which the last link that was opened was
set up, and everything written on the way, the last first. -/
structure Course (σ : Type) where
  station : Station σ Device
  connection : Option (Bench σ Device) := none
  wire : List (Stage σ × Bytes) := []

namespace Course

/-- Goes on to a station; what was written in between was written at a stage. -/
def goOn (c : Course σ) (stage : Stage σ) (s : Station σ Device) : Course σ :=
  { c with
    station := s
    wire := (c.station.world.writtenSince s.world).map (stage, ·) ++ c.wire }

variable [Link σ]

def connect (c : Course σ) : Course σ :=
  if c.station.reader.isConnected then c
  else
    match Reader.openChannel c.station with
    | .error _ s => c.goOn .finding s
    | .ok _ s =>
      { (c.goOn .finding s).goOn .settingUp (after (Reader.start s)) with
        connection := Reader.bench? s }

def step (c : Course σ) : Operation → Course σ
  | .connect => c.connect
  | op => c.goOn (.working c.connection) (after (op.run c.station))

def run (s : Station σ Device) (ops : List Operation) : Course σ := ops.foldl step ⟨s, none, []⟩

theorem station_connect (c : Course σ) :
    c.connect.station = after (Reader.connect c.station) := by
  unfold connect
  by_cases hc : c.station.reader.isConnected
  · rw [if_pos hc, Reader.connect_connected hc]
    rfl
  · rw [if_neg hc, Reader.connect_apart hc]
    cases hopen : Reader.openChannel c.station with
    | error e s =>
      rw [bind_error hopen]
      rfl
    | ok _ s =>
      rw [bind_ok hopen]
      rfl

theorem station_step (c : Course σ) (op : Operation) :
    (c.step op).station = after (op.run c.station) := by
  cases op with
  | connect => exact station_connect c
  | disconnect => rfl
  | resetAuthenticate => rfl
  | ask request => rfl

theorem station_run (s : Station σ Device) (ops : List Operation) :
    (run s ops).station = Operation.runs s ops := by
  have h : ∀ c : Course σ, (ops.foldl step c).station = Operation.runs c.station ops := by
    induction ops with
    | nil => exact fun _ => rfl
    | cons op ops ih =>
      intro c
      rw [List.foldl_cons, ih, station_step]
      rfl
  exact h _

end Course

variable [Link σ]

/-- No key, or keys agreed on when the present connection was set up. -/
def AgreedOn (connection : Option (Bench σ Device)) (keys : Keys) : Prop :=
  keys = {} ∨ ∃ b, connection = some b ∧ Agreed b keys

/-- What a reader may write: while it looks for its port, a ping in plain mode; while it sets a
session up, a request of a handshake in the mode of handshakes; at work, commands in its own mode,
protected under keys of the present connection. -/
def Lawful (r : Reader σ Device) : Stage σ → Bytes → Prop
  | .finding, frame =>
    r.scanner.isSome ∧
      frame = Peer.frame (r.driver.framer.inMode .plain)
        (Peer.request r.driver.framer.type 0x0008 [])
  | .settingUp, frame => ∃ data,
      frame = Peer.frame (r.driver.framer.inMode .reserved)
        (Peer.request r.driver.framer.type 0x0001 data)
  | .working connection, frame => ∃ keys code data body message, AgreedOn connection keys ∧
      (r.driver.framer.inMode r.driver.configured).Sealed keys code data body message frame

/-- A course that began at `s` tells everything that was written, and all of it is lawful. -/
structure Recorded (s : Station σ Device) (c : Course σ) : Prop where
  scanner_eq : c.station.reader.scanner.isSome = s.reader.scanner.isSome
  complete : c.station.world.sent = c.wire.map Prod.snd ++ s.world.sent
  lawful : ∀ entry ∈ c.wire, Lawful s.reader entry.1 entry.2

/-- The driver has the settings that it had at `s`, and keys of the present connection. -/
structure Fair (s : Station σ Device) (c : Course σ) : Prop extends Recorded s c where
  driver_kept :
    Kept s.reader.driver (fun keys _ => AgreedOn c.connection keys) c.station.reader.driver

variable {s t : Station σ Device} {c : Course σ}

/-- What is written in a stage is lawful in it, and the course goes on to have it recorded. -/
theorem Recorded.goOn {J : Device → Prop} {P : Bytes → Prop} {stage : Stage σ}
    (h : Recorded s c) (hJ : J c.station.reader.driver) (ht : Watched J P c.station t)
    (hP : ∀ frame, P frame → Lawful s.reader stage frame) :
    Recorded s (c.goOn stage t) ∧ J t.reader.driver := by
  obtain ⟨hJ', hwrote⟩ := ht.guards hJ
  obtain ⟨hsent, hnew⟩ := hwrote.writtenSince
  refine ⟨⟨ht.scanner_eq.trans h.scanner_eq, ?_, ?_⟩, hJ'⟩
  · change t.world.sent = _
    have hframes : ((c.station.world.writtenSince t.world).map (stage, ·)).map Prod.snd =
        c.station.world.writtenSince t.world := by
      rw [List.map_map]
      exact List.map_id _
    rw [hsent, h.complete, Course.goOn, List.map_append, hframes, List.append_assoc]
  · intro entry hentry
    obtain hentry | hentry := List.mem_append.mp hentry
    · obtain ⟨frame, hframe, rfl⟩ := List.mem_map.mp hentry
      exact hP frame (hnew frame hframe)
    · exact h.lawful entry hentry

theorem fair_goOn {P : Bytes → Prop} {stage : Stage σ} (h : Fair s c)
    (ht : Watched (Kept s.reader.driver fun keys _ => AgreedOn c.connection keys) P c.station t)
    (hP : ∀ frame, P frame → Lawful s.reader stage frame) : Fair s (c.goOn stage t) := by
  obtain ⟨hrecorded, hkept⟩ := h.toRecorded.goOn h.driver_kept ht hP
  exact ⟨hrecorded, hkept⟩

theorem send_lawful {r : Reader σ Device} (hmode : r.driver.framer.mode = r.driver.configured)
    (connection : Option (Bench σ Device)) (command : Bytes) :
    Keeps (Guards (Kept r.driver fun keys _ => AgreedOn connection keys)
      (Lawful r (.working connection))) (Channel.send command : Act σ Device Answer) := by
  apply send_kept
  rintro d raw g ⟨keys, session, chained, lastCode, nonces, hkeys, rfl⟩ hraw
  obtain ⟨code, data, rfl⟩ := Framer.encode_ok hraw
  obtain ⟨body, message, hsealed⟩ := Framer.encode_command_ok hraw
  refine ⟨keys, code, data, body, message, hkeys, ?_⟩
  rw [← hmode]
  exact ⟨hsealed.framed, hsealed.signed, hsealed.unsigned, hsealed.ciphered, hsealed.unciphered⟩

namespace Fair

variable (hmode : s.reader.driver.framer.mode = s.reader.driver.configured)
include hmode

theorem connect (h : Fair s c) : Fair s c.connect := by
  have hopened := Reader.openChannel_calm
    (J := Kept s.reader.driver fun keys _ => AgreedOn c.connection keys)
    (P := Lawful s.reader .finding) c.station
    fun hscanner => probe_kept ⟨h.scanner_eq ▸ hscanner, rfl⟩
  unfold Course.connect
  by_cases hc : c.station.reader.isConnected
  · rw [if_pos hc]
    exact h
  · rw [if_neg hc]
    cases hopen : Reader.openChannel c.station with
    | error e t =>
      rw [hopen] at hopened
      exact fair_goOn h hopened.toWatched fun _ hframe => hframe
    | ok _ t =>
      rw [hopen] at hopened
      obtain ⟨channel, hchannel⟩ := Option.isSome_iff_exists.mp (Reader.openChannel_channel hopen)
      obtain ⟨b, hb⟩ : ∃ b, Reader.bench? t = some b :=
        ⟨_, Option.map_eq_some_iff.mpr ⟨channel, hchannel, rfl⟩⟩
      have hfound := fair_goOn h hopened.toWatched fun _ hframe => hframe
      -- The keys change here, so nothing is kept of the old ones: what is left of the invariant is
      -- taken up again for the bench `b` of the new connection.
      have hconfigure : Keeps (Guards (Kept s.reader.driver Unconstrained)
          (Lawful s.reader .settingUp)) (Driver.configure : Act σ Device Unit) := by
        intro b hJ
        exact configure_kept b (prepared_kept hJ hmode) fun data => ⟨data, rfl⟩
      obtain ⟨hrecorded, hkept⟩ := hfound.toRecorded.goOn (hfound.driver_kept.of_session trivial)
        (Reader.start_watched hconfigure t) fun _ hframe => hframe
      refine ⟨⟨hrecorded.scanner_eq, hrecorded.complete, hrecorded.lawful⟩, hkept.of_session ?_⟩
      right
      refine ⟨b, hb, ?_⟩
      rw [Reader.start_driver hb]
      exact agreed_configure b

/-- One operation, also one that fails. -/
theorem step (h : Fair s c) (op : Operation) : Fair s (c.step op) := by
  have hsend := send_lawful (r := s.reader) hmode c.connection
  have hreset : ∀ d, Kept s.reader.driver (fun keys _ => AgreedOn c.connection keys) d →
      Kept s.reader.driver (fun keys _ => AgreedOn c.connection keys)
        { d with framer := d.framer.resetSession } := by
    intro d hd
    exact (hd.resumed {} .unauthenticated none).of_session (.inl rfl)
  cases op with
  | connect => exact h.connect hmode
  | disconnect =>
    have hcalm := (Reader.disconnect_watched (release_guards hsend hreset) c.station).1
    exact fair_goOn h hcalm fun _ hframe => hframe
  | resetAuthenticate =>
    have hwatched := resetAuthenticate_watched hsend hreset c.station
    exact fair_goOn h hwatched fun _ hframe => hframe
  | ask request =>
    exact fair_goOn h (request.run_calm hsend c.station).toWatched fun _ hframe => hframe

theorem run (h : Fair s c) (ops : List Operation) : Fair s (ops.foldl Course.step c) := by
  induction ops generalizing c with
  | nil => exact h
  | cons op ops ih => exact ih (h.step hmode op)

end Fair

theorem Device.Unused.fair (h : s.reader.driver.Unused) : Fair s ⟨s, none, []⟩ where
  scanner_eq := rfl
  complete := rfl
  lawful _ hentry := absurd hentry List.not_mem_nil
  driver_kept := .refl (.inl h.keyless)

/-- Over any operations on a reader that was never connected, nothing is written but pings in search
of its port, requests of the handshakes, and commands protected as its mode asks under the keys that
were agreed on when its link was last opened. -/
theorem wire_lawful (s : Station σ Device) (hs : s.reader.driver.Unused) (ops : List Operation) :
    (Course.run s ops).station = Operation.runs s ops ∧
      (Operation.runs s ops).world.sent =
        (Course.run s ops).wire.map Prod.snd ++ s.world.sent ∧
      ∀ entry ∈ (Course.run s ops).wire, Lawful s.reader entry.1 entry.2 := by
  have hfair : Fair s (Course.run s ops) := hs.fair.run hs.mode_eq ops
  refine ⟨Course.station_run s ops, ?_, hfair.lawful⟩
  rw [← Course.station_run]
  exact hfair.complete

theorem wire_lawful_silenced :
    silenced.reader.driver.Unused ∧
      (Course.run silenced [.connect, .resetAuthenticate]).wire.length = 3 ∧
      ∀ entry ∈ (Course.run silenced [.connect, .resetAuthenticate]).wire,
        Lawful silenced.reader entry.1 entry.2 := by
  have hs : silenced.reader.driver.Unused := ⟨rfl, rfl⟩
  obtain ⟨-, hsent, hlawful⟩ := wire_lawful silenced hs [.connect, .resetAuthenticate]
  obtain ⟨-, -, -, hlength⟩ := silenced_runs
  have hstart : silenced.world.sent = [] := rfl
  rw [hsent, hstart, List.append_nil, List.length_map] at hlength
  exact ⟨hs, hlength, hlawful⟩

end Stid

end CardReader
