import CardReader.AnyDevice
import CardReader.Proofs.Stid.Session

namespace CardReader

open Run Act

variable {σ δ ι α : Type} {E : ReaderError → Prop}

namespace Act

theorem ofLink_fails (h : ∀ cause, E (.link cause)) (op : Nat → σ → Outcome σ α) :
    Fails E (ofLink (δ := δ) op) := by
  intro b e b' hrun
  cases hresult : (op b.world.clock b.channel.link).result with
  | ok a =>
    rw [ofLink_ok hresult] at hrun
    contradiction
  | error cause =>
    rw [ofLink_error hresult] at hrun
    injection hrun with he _
    rw [← he]
    exact h cause

theorem ofCoding_fails {step : Coding δ α} (h : Fails (fun cause => E (.frame cause)) step) :
    Fails E (ofCoding (σ := σ) step) := by
  intro b e b' hrun
  unfold ofCoding at hrun
  split at hrun
  · contradiction
  · rename_i cause d hstep
    injection hrun with he _
    rw [← he]
    exact h b.driver cause d hstep

theorem ofExcept_fails {out : Except ReaderError α} (h : ∀ e, out = .error e → E e) :
    Fails E (ofExcept (σ := σ) (δ := δ) out) := by
  cases out with
  | ok a => exact Fails.pure a
  | error e => exact Fails.throw (h e rfl)

theorem onPart_fails (wrap : ι → δ) (part : ι) {act : Act σ ι α} (h : Fails E act) :
    Fails E (onPart wrap part act) := by
  intro b e b' hrun
  unfold onPart at hrun
  split at hrun
  · contradiction
  · rename_i e' c hact
    injection hrun with he _
    rw [← he]
    exact h _ _ _ hact

theorem now_fails : Fails E (now : Act σ δ Nat) := by
  intro b e b' hrun
  contradiction

end Act

variable [Link σ]

namespace Channel

/-- Collecting fails on the line only. -/
theorem collect_fails (h : ∀ cause, E (.link cause)) (family : Family) (deadline chunks : Nat) :
    Fails E (collect (σ := σ) (δ := δ) family deadline chunks) := by
  have htake : Fails E (takeFrame (σ := σ) (δ := δ) family) := by
    intro b e b' hrun
    contradiction
  induction chunks with
  | zero => exact htake
  | succ chunks ih =>
    unfold collect
    refine Fails.bind htake fun frame => ?_
    cases frame with
    | some frame => exact Fails.pure _
    | none =>
      refine Fails.bind now_fails fun time => ?_
      refine Fails.ite (Fails.pure _) ?_
      refine Fails.bind (ofLink_fails h _) fun chunk => ?_
      refine Fails.ite (Fails.pure _) ?_
      exact Fails.bind (Fails.change _) fun _ => ih

/-- Receiving fails on the line, by silence, or by a frame that is cut. -/
theorem receiveFrame_fails (hlink : ∀ cause, E (.link cause)) (htimeout : ∀ time, E (.timeout time))
    (hcut : ∀ length, E (.frame (.truncated length))) (family : Family) (deadline : Nat) :
    Fails E (receiveFrame (σ := σ) (δ := δ) family deadline) := by
  unfold receiveFrame
  refine Fails.bind now_fails fun started => ?_
  refine Fails.bind Fails.get fun b => ?_
  refine Fails.bind (collect_fails hlink family deadline _) fun frame => ?_
  cases frame with
  | some frame => exact Fails.pure _
  | none =>
    refine Fails.bind Fails.get fun b => ?_
    exact Fails.ite (Fails.bind (Fails.throw (htimeout _)) fun _ => Fails.throw (hcut _))
      (Fails.throw (hcut _))

theorem openLink_fails (h : ∀ cause, E (.link cause)) :
    Fails E (openLink : Act σ δ Unit) := by
  unfold openLink
  refine Fails.bind (Fails.change _) fun _ => ?_
  refine Fails.bind Fails.get fun b => ?_
  exact Fails.bind (Fails.change _) fun _ => ofLink_fails h _

theorem transmit_fails [Codec δ] {command : Bytes} (hlink : ∀ cause, E (.link cause))
    (hframed : Fails (fun cause => E (.frame cause)) (Codec.encode command : Coding δ Bytes)) :
    Fails E (transmit (σ := σ) (δ := δ) command) := by
  unfold transmit write
  refine Fails.bind (ofCoding_fails hframed) fun raw => ?_
  refine Fails.bind ?_ fun _ => Fails.change _
  refine Fails.bind Fails.get fun b => ?_
  refine Fails.ite ?_ (ofLink_fails hlink _)
  exact Fails.bind (Fails.change _) fun _ => ofLink_fails hlink _

end Channel

/-- A property of the failures that an exchange can have. -/
structure ReaderError.Exchanged (E : ReaderError → Prop) : Prop where
  frame : ∀ cause, E (.frame cause)
  link : ∀ cause, E (.link cause)
  timeout : ∀ time, E (.timeout time)
  notConnected : E .notConnected

/-- A property of the failures that exchanges and the reading of their answers can have. -/
structure ReaderError.Ordinary (E : ReaderError → Prop) : Prop extends ReaderError.Exchanged E where
  badState : ∀ cause, E (.badState cause)
  badResponse : ∀ cause, E (.badResponse cause)

theorem Channel.send_fails [Codec δ] (hE : ReaderError.Exchanged E) (command : Bytes) :
    Fails E (Channel.send command : Act σ δ Answer) := by
  have htransmit : Fails E (Channel.transmit command : Act σ δ Unit) :=
    Channel.transmit_fails hE.link (Fails.any hE.frame)
  unfold Channel.send Channel.sendWithin
  refine Fails.bind Fails.get fun b => ?_
  refine Fails.bind Fails.get fun b => ?_
  refine Fails.guarded hE.notConnected ?_
  refine Fails.bind (Fails.change _) fun _ => ?_
  refine Fails.bind htransmit fun _ => ?_
  refine Fails.bind Fails.get fun b => ?_
  refine Fails.bind now_fails fun time => ?_
  refine Fails.bind (Channel.receiveFrame_fails hE.link hE.timeout (fun _ => hE.frame _) _ _)
    fun frame => ?_
  exact Fails.bind (Fails.change _) fun _ => ofCoding_fails (Fails.any hE.frame)

variable (hE : ReaderError.Ordinary E)
include hE

namespace Channel

theorem close_fails : Fails E (close : Act σ δ Unit) := by
  unfold close
  refine Fails.bind (Fails.change _) fun _ => ?_
  refine Fails.bind Fails.get fun b => ?_
  refine Fails.ite ?_ (Fails.pure _)
  exact Fails.bind (Fails.change _) fun _ => ofLink_fails hE.link _

end Channel

theorem Rpleth.Device.configure_fails : Fails E (configure (σ := σ)) := by
  unfold configure
  exact Fails.bind (Channel.send_fails hE.toExchanged nopCommand) fun _ => Fails.pure _

theorem Prox.Device.configure_fails : Fails E (configure (σ := σ)) := by
  unfold configure
  exact Fails.bind (Channel.send_fails hE.toExchanged selectCommand) fun _ => Fails.pure _

theorem Promag.Device.configure_fails : Fails E (configure (σ := σ)) := by
  unfold configure
  exact Fails.bind (Channel.send_fails hE.toExchanged nameCommand) fun _ => Fails.change _

theorem Axess.Device.configure_fails : Fails E (configure (σ := σ)) := by
  unfold configure
  refine Fails.bind (Channel.send_fails hE.toExchanged nameCommand) fun answer => ?_
  exact Fails.guarded (hE.badResponse _) (Fails.change _)

namespace Osdp.Device

theorem sendUntil_fails (giveUp : Nat) (command : Bytes) (tries : Nat) :
    Fails E (sendUntil (σ := σ) giveUp command tries) := by
  induction tries with
  | zero => exact Fails.throw (hE.badState _)
  | succ tries ih =>
    unfold sendUntil
    refine Fails.bind (Channel.send_fails hE.toExchanged command) fun answer => ?_
    refine Fails.ite (Fails.pure _) ?_
    refine Fails.bind now_fails fun time => ?_
    refine Fails.guarded (hE.badState _) ?_
    exact Fails.bind (Fails.change _) fun _ => ih

theorem configure_fails : Fails E (configure (σ := σ)) := by
  have hidentity : ∀ data e, Identity.ofPayload data = .error e → E e := by
    intro data e h
    unfold Identity.ofPayload at h
    split at h
    · contradiction
    · rw [← Except.error.inj h]
      exact hE.badResponse _
  unfold configure identify Device.send
  refine Fails.bind ?_ fun identity => Fails.change _
  refine Fails.bind (Fails.bind now_fails fun _ => sendUntil_fails hE _ _ _) fun answer => ?_
  exact Fails.guarded (hE.badResponse _) (ofExcept_fails (hidentity answer.data))

end Osdp.Device

namespace Stid.Device

omit [Link σ] hE in
theorem under_fails (mode : Mode) {act : Act σ Device α} (h : Fails E act) :
    Fails E (under mode act) := by
  intro b e b' hrun
  rw [under_eq] at hrun
  unfold andAlways at hrun
  split at hrun
  · contradiction
  · rename_i e' c hact
    injection hrun with he _
    rw [← he]
    exact h _ _ _ hact

omit [Link σ] hE in
theorem orReset_fails {act : Act σ Device α} (h : Fails E act) : Fails E (orReset act) := by
  intro b e b' hrun
  unfold orReset at hrun
  split at hrun
  · contradiction
  · rename_i e' c hact
    injection hrun with he _
    rw [← he]
    exact h _ _ _ hact

theorem handshakeStep_fails (message : Bytes) : Fails E (handshakeStep (σ := σ) message) := by
  intro b e b' hrun
  unfold handshakeStep at hrun
  split at hrun
  · injection hrun with he _
    rw [← he]
    exact hE.frame _
  · exact Channel.send_fails hE.toExchanged _ _ _ _ hrun

omit [Link σ] in
theorem ofSession_fails (out : Except SessionError α) : Fails E (ofSession (σ := σ) out) := by
  cases out with
  | ok a => exact Fails.pure a
  | error cause => exact Fails.throw (hE.frame _)

omit [Link σ] in
theorem handshake_fails {exchange : Device → Block → Act σ Device α}
    (hx : ∀ d nonce, Fails E (exchange d nonce)) (install : α → Keys → Keys) :
    Fails E (handshake exchange install) := by
  unfold handshake
  refine Fails.bind (ofCoding_fails (Fails.any hE.frame)) fun nonce => ?_
  refine Fails.bind (Fails.change _) fun _ => ?_
  refine Fails.bind Fails.get fun b => ?_
  exact Fails.bind (orReset_fails (under_fails _ (hx b.driver nonce))) fun _ => Fails.change _

theorem configure_fails : Fails E (configure (σ := σ)) := by
  have hhmac : Fails E (authenticateHmac (σ := σ)) := by
    rw [authenticateHmac_eq]
    refine handshake_fails hE (fun d nonce => ?_) _
    unfold hmacExchange
    refine Fails.bind (handshakeStep_fails hE _) fun challenge => ?_
    exact Fails.bind (handshakeStep_fails hE _) fun reply => ofSession_fails hE _
  have haes : Fails E (authenticateAes (σ := σ)) := by
    rw [authenticateAes_eq]
    refine handshake_fails hE (fun d nonce => ?_) _
    unfold aesExchange
    refine Fails.bind (handshakeStep_fails hE _) fun challenge => ?_
    refine Fails.bind (ofSession_fails hE _) fun out => ?_
    exact Fails.bind (handshakeStep_fails hE _) fun reply => ofSession_fails hE _
  intro b e b' hrun
  rw [configure_eq] at hrun
  refine Fails.bind ?_ (fun _ => Fails.bind ?_ fun _ => ?_) _ _ _ hrun
  · exact Fails.ite hhmac (Fails.pure _)
  · exact Fails.ite haes (Fails.pure _)
  · exact Fails.ite (Fails.change _) (Fails.pure _)

end Stid.Device

/-- Configuring fails as exchanges and their answers do, whatever the family. -/
theorem AnyDevice.configure_fails : Fails E (AnyDevice.configure (σ := σ)) := by
  intro b e b' hrun
  unfold AnyDevice.configure at hrun
  cases hd : b.driver with
  | stidStr d =>
    rw [hd] at hrun
    exact onPart_fails _ d (Stid.Device.configure_fails hE) _ _ _ hrun
  | rpleth d =>
    rw [hd] at hrun
    exact onPart_fails _ d (Rpleth.Device.configure_fails hE) _ _ _ hrun
  | osdp d =>
    rw [hd] at hrun
    exact onPart_fails _ d (Osdp.Device.configure_fails hE) _ _ _ hrun
  | axess d =>
    rw [hd] at hrun
    exact onPart_fails _ d (Axess.Device.configure_fails hE) _ _ _ hrun
  | stidPrg d =>
    rw [hd] at hrun
    exact onPart_fails _ d (Prox.Device.configure_fails hE) _ _ _ hrun
  | promag d =>
    rw [hd] at hrun
    exact onPart_fails _ d (Promag.Device.configure_fails hE) _ _ _ hrun

end CardReader
