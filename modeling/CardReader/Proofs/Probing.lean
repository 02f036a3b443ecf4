import CardReader.Proofs.Bystander
import CardReader.Proofs.Lockstep
import CardReader.Proofs.Osdp.Sequence

namespace CardReader

open Run Act Bench

variable {σ δ ι α : Type}

theorem onPart_driver (wrap : ι → δ) (part : ι) (act : Act σ ι α) (b : Bench σ δ) :
    (after (onPart wrap part act b)).driver =
      wrap (after (act ⟨b.world, b.channel, part⟩)).driver := by
  unfold onPart
  cases act ⟨b.world, b.channel, part⟩ with
  | ok a c => rfl
  | error e c => rfl

/-- A codec whose part has no state leaves the driver as it is. -/
theorem send_same [Link σ] [Codec δ] (part : δ → ι) (set : ι → δ → δ) (hset : ∀ i d, set i d = d)
    {encode : Bytes → Coding ι Bytes} {decode : Bytes → Coding ι Answer}
    (hencode : ∀ command, Codec.encode command = Coding.onPart part set (encode command))
    (hdecode : ∀ frame, Codec.decode frame = Coding.onPart part set (decode frame))
    (command : Bytes) : KeepsDriver (σ := σ) (fun d d' : δ => d' = d) (Channel.send command) := by
  apply Channel.send_keeps closed_eq
  · intro command d
    rw [hencode, Coding.after_onPart, hset]
  · intro frame d
    rw [hdecode, Coding.after_onPart, hset]

namespace Rpleth.Device

/-- The drivers differ in the last command at most. -/
def Recoded (d d' : Device) : Prop := ∃ last, d' = { d with framer := ⟨last⟩ }

theorem closed_recoded : Closed Recoded where
  refl d := ⟨d.framer.last, rfl⟩
  trans := by
    rintro s t u ⟨last, rfl⟩ ⟨last', rfl⟩
    exact ⟨last', rfl⟩

theorem encode_nop {d d' : Device} (h : Recoded d d') :
    (Codec.encode nopCommand : Coding Device Bytes) d' = Codec.encode nopCommand d := by
  obtain ⟨last, rfl⟩ := h
  rfl

theorem onFramer_recoded (step : Coding Framer α) :
    Keeps Recoded (Coding.onPart framer (fun f d => { d with framer := f }) step) := by
  intro d
  rw [Coding.after_onPart]
  exact ⟨(after (step d.framer)).last, rfl⟩

theorem send_recoded [Link σ] (command : Bytes) :
    KeepsDriver (σ := σ) Recoded (Channel.send command) :=
  Channel.send_keeps closed_recoded (fun _ => onFramer_recoded _) (fun _ => onFramer_recoded _) _

theorem probe_recoded [Link σ] : KeepsDriver Recoded (Driver.probe : Act σ Device Bool) :=
  Channel.ping_keeps (closed_driver closed_recoded) send_recoded (fun _ => nopCommand)
    fun _ _ => true

theorem probe_paired [Link σ] {R : Nat → σ → Nat → σ → Prop} (hR : Link.Bisimulation R)
    (start start' : Nat) : Lockstep (Paired R start start' Recoded) (Paired R start start' Recoded)
      (Driver.probe : Act σ Device Bool) Driver.probe :=
  Channel.ping_paired hR (fun _ => nopCommand) (fun _ _ => true) closed_recoded.refl
    (fun _ _ _ => rfl) (fun _ _ _ => encode_nop) fun _ _ _ => rfl

end Rpleth.Device

namespace Stid.Device

/-- Framing a command does not look at the one before. -/
theorem encode_coded (code : UInt16) (data : Bytes) {d d' : Device} (h : Coded d d') :
    (Codec.encode (command code data) : Coding Device Bytes) d' =
      Codec.encode (command code data) d := by
  obtain ⟨last, rfl⟩ := h
  rfl

theorem Coded.inMode {d d' : Device} (h : Coded d d') (mode : Mode) :
    Coded (d.inMode mode) (d'.inMode mode) := by
  obtain ⟨code, rfl⟩ := h
  exact ⟨code, rfl⟩

/-- Runs in lockstep stay so under another mode, which both give back. -/
theorem under_lockstep {Q : Bench σ Device → Bench σ Device → Prop} (hQ : Through Coded Q)
    (mode : Mode) {act act' : Act σ Device α} (hact : Lockstep Q Q act act') :
    Lockstep Q Q (under mode act) (under mode act') := by
  intro b b' h
  have hmode : b'.driver.framer.mode = b.driver.framer.mode := by
    obtain ⟨code, hcode⟩ := hQ.driver h
    rw [hcode]
  have hin := hact _ _ (hQ.of_driver h ((hQ.driver h).inMode mode))
  rw [under_eq, under_eq, hmode]
  unfold andAlways
  generalize act { b with driver := b.driver.inMode mode } = out,
    act' { b' with driver := b'.driver.inMode mode } = out' at hin
  cases hin with
  | ok a h => exact .ok a (hQ.of_driver h ((hQ.driver h).inMode _))
  | error e h => exact .error e (hQ.of_driver h ((hQ.driver h).inMode _))

variable [Link σ]

theorem probe_coded : KeepsDriver (σ := σ) Coded probe := by
  intro b
  rw [after_probe]
  exact under_unciphered (by decide)
    (Channel.send_keeps closed_unciphered encode_unciphered decode_unciphered ping) b

theorem probe_paired {R : Nat → σ → Nat → σ → Prop} (hR : Link.Bisimulation R)
    (start start' : Nat) :
    Lockstep (Paired R start start' Coded) (Paired R start start' Coded) (probe (σ := σ))
      probe := by
  apply under_lockstep through_paired
  intro b b' h
  have hping : ∀ d d', Coded d d' →
      (Codec.encode ping : Coding Device Bytes) d' = Codec.encode ping d :=
    fun _ _ => encode_coded informationCode []
  have hsend := Channel.send_paired hR (fun d => ⟨d.framer.lastCode, rfl⟩) hping b b' h
  dsimp only
  generalize Channel.send ping b = out, Channel.send ping b' = out' at hsend
  cases hsend with
  | ok answer h => exact .ok _ h
  | error e h =>
    -- A status counts as an answer; every other failure is passed on.
    cases e with
    | frame cause =>
      cases cause with
      | status reported =>
        cases reported with
        | stid status => exact .ok true h
        | _ => exact .error _ h
      | _ => exact .error _ h
    | _ => exact .error _ h

end Stid.Device

namespace AnyDevice

/-- The drivers differ at most in what they remember of the last command. -/
inductive Recoded : AnyDevice → AnyDevice → Prop where
  | stidStr {d d' : Stid.Device} (h : Stid.Device.Coded d d') :
    Recoded (.stidStr d) (.stidStr d')
  | rpleth {d d' : Rpleth.Device} (h : Rpleth.Device.Recoded d d') :
    Recoded (.rpleth d) (.rpleth d')
  | same (d : AnyDevice) : Recoded d d

theorem closed_recoded : Closed Recoded where
  refl := .same
  trans := by
    intro s t u hst htu
    cases hst with
    | same => exact htu
    | stidStr h =>
      cases htu with
      | same => exact .stidStr h
      | stidStr h' => exact .stidStr (Stid.Device.closed_coded.trans h h')
    | rpleth h =>
      cases htu with
      | same => exact .rpleth h
      | rpleth h' => exact .rpleth (Rpleth.Device.closed_recoded.trans h h')

/-- A driver after `n` refusals: an OSDP host counts them, and no other takes notice. -/
def moved (n : Nat) : AnyDevice → AnyDevice
  | .osdp d => .osdp (d.moved n)
  | d => d

theorem moved_zero (d : AnyDevice) : d.moved 0 = d := by cases d <;> rfl

theorem moved_add (m n : Nat) (d : AnyDevice) : (d.moved m).moved n = d.moved (m + n) := by
  cases d with
  | osdp d =>
    have hiterate : Osdp.Framer.succ^[n] (Osdp.Framer.succ^[m] d.framer.sequence) =
        Osdp.Framer.succ^[m + n] d.framer.sequence := by
      rw [Nat.add_comm, Function.iterate_add_apply]
    simp only [moved, Osdp.Device.moved, Osdp.Framer.moved, hiterate]
  | _ => rfl

theorem moved_of_family {d : AnyDevice} (h : d.family ≠ .osdp) (n : Nat) : d.moved n = d := by
  cases d with
  | osdp d => exact absurd rfl h
  | _ => rfl

theorem Recoded.moved {d d' : AnyDevice} (h : Recoded d d') (n : Nat) :
    Recoded (d.moved n) (d'.moved n) := by
  cases h with
  | stidStr h => exact .stidStr h
  | rpleth h => exact .rpleth h
  | same => exact .same _

variable [Link σ]

/-- From a driver that remembers another last command a reader is looked for in the same way. -/
theorem probe_paired {R : Nat → σ → Nat → σ → Prop} (hR : Link.Bisimulation R)
    (start start' : Nat) :
    Lockstep (Paired R start start' Recoded) (Paired R start start' Recoded) (probe (σ := σ))
      probe := by
  rintro ⟨w, c, d⟩ ⟨w', c', d'⟩ h
  cases h.driver with
  | stidStr hd => exact onPart_paired .stidStr (Stid.Device.probe_paired hR _ _) h hd
  | rpleth hd =>
    exact onPart_paired .rpleth (Rpleth.Device.probe_paired hR _ _) h hd
  | same =>
    have hwrap : ∀ {ι : Type} {wrap : ι → AnyDevice} {part part' : ι}, part = part' →
        Recoded (wrap part) (wrap part') := by
      rintro ι wrap part _ rfl
      exact .same _
    cases d with
    | stidStr d =>
      exact onPart_paired .stidStr (Stid.Device.probe_paired hR _ _) h
        (Stid.Device.closed_coded.refl d)
    | rpleth d =>
      exact onPart_paired hwrap (Channel.ping_same hR (fun _ => _) fun _ _ => true) h rfl
    | osdp d =>
      exact onPart_paired hwrap (Channel.ping_same hR (fun _ => _) fun _ _ => true) h rfl
    | axess d =>
      exact onPart_paired hwrap (Channel.ping_same hR (fun _ => _) fun _ => _) h rfl
    | stidPrg d =>
      exact onPart_paired hwrap (Channel.ping_same hR (fun _ => _) fun _ _ => true) h rfl
    | promag d =>
      exact onPart_paired hwrap (Channel.ping_same hR (fun _ => _) fun _ _ => true) h rfl

/-- Whether a run ended with the refusal of an OSDP device. -/
def refusal {κ : Type} : EStateM.Result ReaderError κ α → Bool
  | .ok _ _ => false
  | .error e _ => e.isNak

/-- A driver whose probe fails or says no is as it was before, but for the count of refusals. -/
theorem probe_rejected (b : Bench σ AnyDevice) (h : ∀ c, probe b ≠ .ok true c) :
    Recoded (b.driver.moved (if refusal (probe b) then 1 else 0)) (after (probe b)).driver := by
  obtain ⟨w, c, d⟩ := b
  have hsame : ∀ {ι : Type} {wrap : ι → AnyDevice} {part : ι} {act : Act σ ι Bool},
      KeepsDriver (fun d d' => d' = d) act →
        Recoded (wrap part) (after (onPart wrap part act ⟨w, c, d⟩)).driver := by
    intro ι wrap part act hact
    rw [onPart_driver, hact ⟨w, c, part⟩]
    exact .same _
  have hC : ∀ {δ : Type}, Closed fun b b' : Bench σ δ => b'.driver = b.driver :=
    closed_driver (R := fun d d' => d' = d) closed_eq
  have haxess := send_same (σ := σ) Axess.Device.framer
    (fun f d => { d with framer := f }) (fun _ _ => rfl) (fun _ => rfl) (fun _ => rfl)
  have hprox := send_same (σ := σ) Prox.Device.framer
    (fun f d => { d with framer := f }) (fun _ _ => rfl) (fun _ => rfl) (fun _ => rfl)
  have hpromag := send_same (σ := σ) Promag.Device.framer
    (fun f d => { d with framer := f }) (fun _ _ => rfl) (fun _ => rfl) (fun _ => rfl)
  -- Only the device of OSDP counts refusals, so in all other cases the driver is just recoded.
  cases d with
  | stidStr d =>
    change Recoded _ (after (onPart .stidStr d Driver.probe _)).driver
    rw [onPart_driver]
    exact .stidStr (Stid.Device.probe_coded ⟨w, c, d⟩)
  | rpleth d =>
    change Recoded _ (after (onPart .rpleth d Driver.probe _)).driver
    rw [onPart_driver]
    exact .rpleth (Rpleth.Device.probe_recoded ⟨w, c, d⟩)
  | axess d => exact hsame (Channel.ping_keeps hC haxess (fun _ => _) fun _ => _)
  | stidPrg d => exact hsame (Channel.ping_keeps hC hprox (fun _ => _) fun _ _ => true)
  | promag d => exact hsame (Channel.ping_keeps hC hpromag (fun _ => _) fun _ _ => true)
  | osdp d =>
    obtain ⟨e, t, hrun, hdriver⟩ : ∃ e t,
        (Driver.probe : Act σ Osdp.Device Bool) ⟨w, c, d⟩ = .error e t ∧
          t.driver = if e.isNak then d.moved 1 else d := by
      apply Osdp.Device.probe_rejected
      intro t hfound
      apply h ⟨t.world, t.channel, .osdp t.driver⟩
      change onPart AnyDevice.osdp d Driver.probe _ = _
      unfold onPart
      rw [hfound]
    have hfailed : probe (⟨w, c, .osdp d⟩ : Bench σ AnyDevice) =
        .error e ⟨t.world, t.channel, .osdp t.driver⟩ := by
      change onPart AnyDevice.osdp d Driver.probe _ = _
      unfold onPart
      rw [hrun]
    rw [hfailed]
    change Recoded (moved (if e.isNak then 1 else 0) _) (.osdp t.driver)
    rw [hdriver]
    by_cases hnak : e.isNak
    · rw [if_pos hnak, if_pos hnak]
      exact .same _
    · rw [if_neg hnak, if_neg hnak]
      exact .same _

end AnyDevice

end CardReader
