import CardReader.AnyDevice
import CardReader.Proofs.Stid.Device

namespace CardReader

open Run Act

variable {σ δ ι α : Type}

namespace Bench

def bare (b : Bench σ δ) : Bench σ Unit := ⟨b.world, b.channel, ()⟩

/-- `Q` holds, whatever became of the driver. -/
def Aside (Q : Bench σ Unit → Bench σ Unit → Prop) (b b' : Bench σ δ) : Prop := Q b.bare b'.bare

theorem bare_ofLink (op : Nat → σ → Outcome σ α) (b : Bench σ δ) :
    (after (ofLink op b)).bare = after (ofLink op b.bare) := by
  rw [after_ofLink, after_ofLink]
  rfl

variable {Q : Bench σ Unit → Bench σ Unit → Prop}

/-- What a part of a driver leaves alone, the driver does. -/
theorem onPart_aside (wrap : ι → δ) (part : ι) {act : Act σ ι α} (h : Keeps (Aside Q) act) :
    Keeps (Aside Q) (onPart wrap part act) := by
  intro b
  have hpart := h ⟨b.world, b.channel, part⟩
  unfold onPart
  cases hrun : act ⟨b.world, b.channel, part⟩ with
  | ok a b' =>
    rw [hrun] at hpart
    exact hpart
  | error e b' =>
    rw [hrun] at hpart
    exact hpart

theorem ofLink_aside {op : Nat → σ → Outcome σ α} (h : Keeps Q (ofLink op)) :
    Keeps (Aside (δ := δ) Q) (ofLink op) := by
  intro b
  unfold Aside
  rw [bare_ofLink]
  exact h b.bare

end Bench

open Bench

variable [Link σ]

/-- A relation that sending and receiving keep, and the lapse of time. -/
structure Bystander (Q : Bench σ Unit → Bench σ Unit → Prop) : Prop extends Receptive Q where
  send : ∀ data, Keeps Q (ofLink fun now => Link.send now data)
  noted : ∀ b data quiet, Q b { b with world := b.world.note (.sent data quiet) }
  later : ∀ b time, Q b { b with world := b.world.passUntil time }

namespace Bystander

variable {Q : Bench σ Unit → Bench σ Unit → Prop} (hQ : Bystander Q)
include hQ

theorem closed : Closed (Aside (δ := δ) Q) where
  refl b := hQ.refl b.bare
  trans h h' := hQ.trans h h'

theorem of_driver (b : Bench σ δ) (d : δ) : Aside Q b { b with driver := d } := hQ.refl b.bare

theorem onDriver (f : δ → δ) : Keeps (Aside Q) (onDriver (σ := σ) f) :=
  Keeps.change fun b => hQ.of_driver b _

theorem ofCoding (step : Coding δ α) : Keeps (Aside Q) (ofCoding (σ := σ) step) := by
  intro b
  rw [after_ofCoding]
  exact hQ.of_driver b _

theorem ofExcept (out : Except ReaderError α) :
    Keeps (Aside Q) (ofExcept (σ := σ) (δ := δ) out) := by
  cases out with
  | ok a => exact Keeps.pure hQ.closed a
  | error e => exact Keeps.throw hQ.closed e

theorem receptive : Receptive (Aside (δ := δ) Q) where
  toClosed := hQ.closed
  receive deadline := ofLink_aside (hQ.receive deadline)
  onBuffer b buffer := hQ.onBuffer b.bare buffer
  onLast b last := hQ.onLast b.bare last

theorem note (data : Bytes) (quiet : Bool) :
    Keeps (Aside Q) (onWorld (World.note (.sent data quiet)) : Act σ δ Unit) :=
  Keeps.change fun b => hQ.noted b.bare data quiet

theorem write (data : Bytes) : Keeps (Aside Q) (Channel.write data : Act σ δ Unit) := by
  have hC := hQ.closed (δ := δ)
  have hsend : Keeps (Aside (δ := δ) Q) (Act.ofLink fun now => Link.send now data) :=
    ofLink_aside (hQ.send data)
  unfold Channel.write
  refine Keeps.bind hC (Keeps.get hC) fun b => ?_
  refine Keeps.ite ?_ hsend
  exact Keeps.bind hC (hQ.note data _) fun _ => hsend

theorem transmit [Codec δ] (command : Bytes) :
    Keeps (Aside Q) (Channel.transmit command : Act σ δ Unit) := by
  have hC := hQ.closed (δ := δ)
  unfold Channel.transmit
  refine Keeps.bind hC (hQ.ofCoding _) fun raw => ?_
  refine Keeps.bind hC (hQ.write raw) fun _ => ?_
  exact Keeps.change fun b => hQ.receptive.onLast b _

theorem exchange [Codec δ] (command : Bytes) :
    Keeps (Aside Q) (Channel.send command : Act σ δ Answer) :=
  hQ.receptive.send (hQ.transmit command) fun _ => hQ.ofCoding _

/-- A reader is looked for with its ping, unless its driver says otherwise. -/
theorem ping [Codec δ] (ping : δ → Bytes) (accepts : δ → Answer → Bool) :
    Keeps (Aside Q) (do
      let answer ← Channel.send (ping (← get).driver)
      return accepts (← get).driver answer : Act σ δ Bool) :=
  Channel.ping_keeps hQ.closed hQ.exchange ping accepts

end Bystander

section

variable {Q : Bench σ Unit → Bench σ Unit → Prop} (hQ : Bystander Q)
include hQ

namespace Rpleth.Device

theorem configure_aside : Keeps (Aside Q) (configure (σ := σ)) := by
  have hC := hQ.closed (δ := Device)
  unfold configure
  exact Keeps.bind hC (hQ.exchange nopCommand) fun _ => Keeps.pure hC _

omit [Link σ] hQ in
theorem orSilence_aside {act : Act σ Device Bytes} (h : Keeps (Aside Q) act) :
    Keeps (Aside Q) (orSilence act) := by
  intro b
  have hact := h b
  unfold orSilence
  cases hrun : act b with
  | ok frame b' =>
    rw [hrun] at hact
    exact hact
  | error e b' =>
    rw [hrun] at hact
    cases e <;> exact hact

theorem chipInAir_aside : Keeps (Aside Q) (chipInAir (σ := σ)) := by
  have hC := hQ.closed (δ := Device)
  have hbadge : ∀ wait, Keeps (Aside Q) (badge (σ := σ) wait) := by
    intro wait
    unfold badge
    refine Keeps.bind hC (hQ.transmit badgeCommand) fun _ => ?_
    refine Keeps.bind hC hC.refl fun time => ?_
    refine Keeps.bind hC (orSilence_aside (hQ.receptive.receiveFrame _ _)) fun frame => ?_
    cases frame with
    | none => exact Keeps.pure hC none
    | some frame => exact Keeps.bind hC (hQ.ofCoding _) fun answer => Keeps.pure hC _
  unfold chipInAir
  refine Keeps.bind hC (Keeps.get hC) fun b => ?_
  refine Keeps.bind hC (hbadge _) fun frame => ?_
  cases frame with
  | none => exact Keeps.pure hC none
  | some frame => exact Keeps.bind hC (Keeps.get hC) fun b => Keeps.pure hC _

end Rpleth.Device

namespace Prox.Device

theorem configure_aside : Keeps (Aside Q) (configure (σ := σ)) := by
  have hC := hQ.closed (δ := Device)
  unfold configure
  exact Keeps.bind hC (hQ.exchange selectCommand) fun _ => Keeps.pure hC _

theorem chipInAir_aside : Keeps (Aside Q) (chipInAir (σ := σ)) := by
  have hC := hQ.closed (δ := Device)
  unfold chipInAir
  exact Keeps.bind hC (hQ.exchange cardCommand) fun _ => Keeps.pure hC _

end Prox.Device

namespace Promag.Device

theorem configure_aside : Keeps (Aside Q) (configure (σ := σ)) := by
  have hC := hQ.closed (δ := Device)
  unfold configure
  exact Keeps.bind hC (hQ.exchange nameCommand) fun _ => hQ.onDriver _

theorem chipInAir_aside : Keeps (Aside Q) (chipInAir (σ := σ)) := by
  have hC := hQ.closed (δ := Device)
  unfold chipInAir
  exact Keeps.bind hC (hQ.exchange cardCommand) fun answer => hQ.ofExcept _

end Promag.Device

namespace Axess.Device

theorem configure_aside : Keeps (Aside Q) (configure (σ := σ)) := by
  have hC := hQ.closed (δ := Device)
  unfold configure
  refine Keeps.bind hC (hQ.exchange nameCommand) fun answer => ?_
  exact Keeps.guarded hC _ (hQ.onDriver _)

theorem chipInAir_aside : Keeps (Aside Q) (chipInAir (σ := σ)) := by
  have hC := hQ.closed (δ := Device)
  unfold chipInAir
  exact Keeps.bind hC (hQ.exchange cardCommand) fun answer => hQ.ofExcept _

end Axess.Device

namespace Osdp.Device

theorem sendUntil_aside (giveUp : Nat) (command : Bytes) (tries : Nat) :
    Keeps (Aside Q) (sendUntil (σ := σ) giveUp command tries) := by
  have hC := hQ.closed (δ := Device)
  induction tries with
  | zero => exact Keeps.throw hC _
  | succ tries ih =>
    unfold sendUntil
    refine Keeps.bind hC (hQ.exchange command) fun answer => ?_
    refine Keeps.ite (Keeps.pure hC _) ?_
    refine Keeps.bind hC hC.refl fun time => ?_
    refine Keeps.guarded hC _ ?_
    exact Keeps.bind hC (Keeps.change fun b => hQ.later b.bare _) fun _ => ih

theorem send_aside (command : Bytes) : Keeps (Aside Q) (Device.send (σ := σ) command) := by
  have hC := hQ.closed (δ := Device)
  unfold Device.send
  exact Keeps.bind hC hC.refl fun time => sendUntil_aside hQ _ _ _

theorem configure_aside : Keeps (Aside Q) (configure (σ := σ)) := by
  have hC := hQ.closed (δ := Device)
  unfold configure identify
  refine Keeps.bind hC ?_ fun identity => hQ.onDriver _
  refine Keeps.bind hC (send_aside hQ _) fun answer => ?_
  exact Keeps.guarded hC _ (hQ.ofExcept _)

theorem chipInAir_aside : Keeps (Aside Q) (chipInAir (σ := σ)) := by
  have hC := hQ.closed (δ := Device)
  unfold chipInAir
  refine Keeps.bind hC (send_aside hQ _) fun answer => ?_
  refine Keeps.bind hC (hQ.ofExcept _) fun told => ?_
  cases told with
  | nothing => exact Keeps.pure hC none
  | card identifier => exact Keeps.pure hC _
  | tamper on => exact Keeps.bind hC (hQ.onDriver _) fun _ => Keeps.pure hC none

end Osdp.Device

namespace Stid.Device

theorem onFramer_aside (f : Framer → Framer) : Keeps (Aside Q) (onFramer (σ := σ) f) :=
  hQ.onDriver _

theorem under_aside (mode : Mode) {act : Act σ Device α} (h : Keeps (Aside Q) act) :
    Keeps (Aside Q) (under mode act) := by
  intro b
  have hC := hQ.closed (δ := Device)
  rw [after_under]
  exact hC.trans (hC.trans (hQ.of_driver b _) (h _)) (hQ.of_driver _ _)

theorem orReset_aside {act : Act σ Device α} (h : Keeps (Aside Q) act) :
    Keeps (Aside Q) (orReset act) := by
  intro b
  have hact := h b
  unfold orReset
  cases hrun : act b with
  | ok a b' =>
    rw [hrun] at hact
    exact hact
  | error e b' =>
    rw [hrun] at hact
    exact (hQ.closed (δ := Device)).trans hact (hQ.of_driver b' _)

theorem handshake_aside {exchange : Device → Block → Act σ Device α}
    (hx : ∀ d nonce, Keeps (Aside Q) (exchange d nonce)) (install : α → Keys → Keys) :
    Keeps (Aside Q) (handshake exchange install) := by
  have hC := hQ.closed (δ := Device)
  unfold handshake
  refine Keeps.bind hC (hQ.ofCoding _) fun nonce => ?_
  refine Keeps.bind hC (onFramer_aside hQ _) fun _ => ?_
  refine Keeps.bind hC (Keeps.get hC) fun b => ?_
  refine Keeps.bind hC ?_ fun key => onFramer_aside hQ _
  exact orReset_aside hQ (under_aside hQ _ (hx b.driver nonce))

theorem handshakeStep_aside (message : Bytes) :
    Keeps (Aside Q) (handshakeStep (σ := σ) message) := by
  intro b
  rw [after_handshakeStep]
  exact hQ.exchange _ b

theorem probe_aside : Keeps (Aside Q) (probe (σ := σ)) := by
  intro b
  rw [after_probe]
  exact under_aside hQ .plain (hQ.exchange ping) b

theorem configure_aside : Keeps (Aside Q) (configure (σ := σ)) := by
  have hC := hQ.closed (δ := Device)
  have hhmac : Keeps (Aside Q) (authenticateHmac (σ := σ)) := by
    rw [authenticateHmac_eq]
    exact handshake_aside hQ (fun _ _ => hmacExchange_keeps hC (handshakeStep_aside hQ) _) _
  have haes : Keeps (Aside Q) (authenticateAes (σ := σ)) := by
    rw [authenticateAes_eq]
    exact handshake_aside hQ (fun _ _ => aesExchange_keeps hC (handshakeStep_aside hQ) _) _
  intro b
  rw [configure_eq]
  refine hC.trans (hQ.of_driver b _) (Keeps.bind hC ?_ (fun _ => Keeps.bind hC ?_ fun _ => ?_) _)
  · exact Keeps.ite hhmac (Keeps.pure hC _)
  · exact Keeps.ite haes (Keeps.pure hC _)
  · exact Keeps.ite (onFramer_aside hQ _) (Keeps.pure hC _)

theorem chipInAir_aside : Keeps (Aside Q) (chipInAir (σ := σ)) := by
  have hC := hQ.closed (δ := Device)
  unfold chipInAir
  refine Keeps.bind hC (Keeps.bind hC (hQ.exchange _) fun _ => hQ.ofExcept _) fun seen => ?_
  cases seen with
  | some chip => exact Keeps.pure hC (some chip)
  | none => exact Keeps.bind hC (hQ.exchange _) fun _ => hQ.ofExcept _

theorem release_aside : Keeps (Aside Q) (release (σ := σ)) := by
  have hC := hQ.closed (δ := Device)
  have hreset : Keeps (Aside Q) (resetAuthenticate (σ := σ)) := by
    intro b
    rw [after_resetAuthenticate]
    exact hC.trans (hQ.exchange _ b) (hQ.of_driver _ _)
  unfold release
  refine Keeps.bind hC (Keeps.get hC) fun b => ?_
  exact Keeps.ite hreset (onFramer_aside hQ _)

end Stid.Device

namespace AnyDevice

theorem probe_aside : Keeps (Aside Q) (probe (σ := σ)) := by
  intro b
  unfold probe
  cases b.driver with
  | stidStr d => exact onPart_aside _ d (Stid.Device.probe_aside hQ) b
  | rpleth d => exact onPart_aside _ d (hQ.ping (fun _ => _) fun _ _ => true) b
  | osdp d => exact onPart_aside _ d (hQ.ping (fun _ => _) fun _ _ => true) b
  | axess d => exact onPart_aside _ d (hQ.ping (fun _ => _) fun _ => _) b
  | stidPrg d => exact onPart_aside _ d (hQ.ping (fun _ => _) fun _ _ => true) b
  | promag d => exact onPart_aside _ d (hQ.ping (fun _ => _) fun _ _ => true) b

theorem configure_aside : Keeps (Aside Q) (configure (σ := σ)) := by
  intro b
  unfold configure
  cases b.driver with
  | stidStr d => exact onPart_aside _ d (Stid.Device.configure_aside hQ) b
  | rpleth d => exact onPart_aside _ d (Rpleth.Device.configure_aside hQ) b
  | osdp d => exact onPart_aside _ d (Osdp.Device.configure_aside hQ) b
  | axess d => exact onPart_aside _ d (Axess.Device.configure_aside hQ) b
  | stidPrg d => exact onPart_aside _ d (Prox.Device.configure_aside hQ) b
  | promag d => exact onPart_aside _ d (Promag.Device.configure_aside hQ) b

theorem chipInAir_aside : Keeps (Aside Q) (chipInAir (σ := σ)) := by
  intro b
  unfold chipInAir
  cases b.driver with
  | stidStr d => exact onPart_aside _ d (Stid.Device.chipInAir_aside hQ) b
  | rpleth d => exact onPart_aside _ d (Rpleth.Device.chipInAir_aside hQ) b
  | osdp d => exact onPart_aside _ d (Osdp.Device.chipInAir_aside hQ) b
  | axess d => exact onPart_aside _ d (Axess.Device.chipInAir_aside hQ) b
  | stidPrg d => exact onPart_aside _ d (Prox.Device.chipInAir_aside hQ) b
  | promag d => exact onPart_aside _ d (Promag.Device.chipInAir_aside hQ) b

theorem release_aside : Keeps (Aside Q) (release (σ := σ)) := by
  have hnothing : ∀ {δ : Type}, Keeps (Aside Q) (pure () : Act σ δ Unit) :=
    Keeps.pure hQ.closed ()
  intro b
  unfold release
  cases b.driver with
  | stidStr d => exact onPart_aside _ d (Stid.Device.release_aside hQ) b
  | rpleth d => exact onPart_aside _ d hnothing b
  | osdp d => exact onPart_aside _ d hnothing b
  | axess d => exact onPart_aside _ d hnothing b
  | stidPrg d => exact onPart_aside _ d hnothing b
  | promag d => exact onPart_aside _ d hnothing b

end AnyDevice

end

end CardReader
