import CardReader.Channel
import CardReader.Proofs.Run

namespace CardReader

open Run

/-- The bytes that an entry of the journal says were written. -/
def Event.written? : Event → Option Bytes
  | .sent data _ => some data
  | _ => none

namespace World

/-- Everything written so far, the last first. -/
def sent (w : World) : List Bytes := w.journal.filterMap Event.written?

/-- From one moment to a later one, nothing was written that is not in `P`. -/
def Wrote (P : Bytes → Prop) (w w' : World) : Prop :=
  ∃ new, w'.sent = new ++ w.sent ∧ ∀ frame ∈ new, P frame

namespace Wrote

variable {P : Bytes → Prop} {u v w : World}

theorem of_same (h : v.sent = u.sent) : Wrote P u v :=
  ⟨[], h, fun _ hframe => absurd hframe List.not_mem_nil⟩

theorem of_one {frame : Bytes} (h : v.sent = frame :: u.sent) (hP : P frame) : Wrote P u v := by
  refine ⟨[frame], h, ?_⟩
  intro other hother
  rw [List.mem_singleton.mp hother]
  exact hP

theorem trans (huv : Wrote P u v) (hvw : Wrote P v w) : Wrote P u w := by
  obtain ⟨new, hv, hnew⟩ := huv
  obtain ⟨newer, hw, hnewer⟩ := hvw
  refine ⟨newer ++ new, ?_, ?_⟩
  · rw [hw, hv, List.append_assoc]
  · intro frame hframe
    obtain h | h := List.mem_append.mp hframe
    · exact hnewer frame h
    · exact hnew frame h

end Wrote

end World

variable {σ δ α : Type}

namespace Act

def linked (op : Nat → σ → Outcome σ α) (b : Bench σ δ) : Bench σ δ :=
  { b with
    world := b.world.pass (op b.world.clock b.channel.link).elapsed
    channel := { b.channel with link := (op b.world.clock b.channel.link).link } }

theorem ofLink_ok {op : Nat → σ → Outcome σ α} {b : Bench σ δ} {a : α}
    (h : (op b.world.clock b.channel.link).result = .ok a) : ofLink op b = .ok a (linked op b) := by
  unfold ofLink
  simp only [h]
  rfl

theorem ofLink_error {op : Nat → σ → Outcome σ α} {b : Bench σ δ} {e : LinkError}
    (h : (op b.world.clock b.channel.link).result = .error e) :
    ofLink op b = .error (.link e) (linked op b) := by
  unfold ofLink
  simp only [h]
  rfl

theorem after_ofLink (op : Nat → σ → Outcome σ α) (b : Bench σ δ) :
    after (ofLink op b) = linked op b := by
  cases hresult : (op b.world.clock b.channel.link).result with
  | ok a =>
    rw [ofLink_ok hresult]
    rfl
  | error e =>
    rw [ofLink_error hresult]
    rfl

end Act

namespace Channel

/-- A bench whose channel has dropped what it received. -/
def cleared (b : Bench σ δ) : Bench σ δ :=
  { b with channel := { b.channel with buffer := b.channel.buffer.clear } }

end Channel

/-- A relation between benches that receiving keeps. -/
structure Receptive [Link σ] (Q : Bench σ δ → Bench σ δ → Prop) : Prop extends Closed Q where
  receive : ∀ deadline, Keeps Q (Act.ofLink fun now => Link.receive now deadline)
  onBuffer : ∀ b buffer, Q b { b with channel := { b.channel with buffer } }
  onLast : ∀ b last, Q b { b with channel := { b.channel with last } }

namespace Receptive

open Act Channel

variable [Link σ] {Q : Bench σ δ → Bench σ δ → Prop} (hQ : Receptive Q)
include hQ

theorem collect (family : Family) (deadline chunks : Nat) :
    Keeps Q (collect (σ := σ) (δ := δ) family deadline chunks) := by
  have hC := hQ.toClosed
  have htake : Keeps Q (takeFrame (σ := σ) (δ := δ) family) := fun b => hQ.onBuffer b _
  induction chunks with
  | zero => exact htake
  | succ chunks ih =>
    unfold Channel.collect
    refine Keeps.bind hC htake fun frame => ?_
    cases frame with
    | some frame => exact Keeps.pure hC _
    | none =>
      refine Keeps.bind hC hC.refl fun time => ?_
      refine Keeps.ite (Keeps.pure hC _) ?_
      refine Keeps.bind hC (hQ.receive deadline) fun chunk => ?_
      refine Keeps.ite (Keeps.pure hC _) ?_
      exact Keeps.bind hC (Keeps.change fun b => hQ.onBuffer b _) fun _ => ih

theorem receiveFrame (family : Family) (deadline : Nat) :
    Keeps Q (receiveFrame (σ := σ) (δ := δ) family deadline) := by
  have hC := hQ.toClosed
  unfold Channel.receiveFrame
  refine Keeps.bind hC hC.refl fun started => ?_
  refine Keeps.bind hC (Keeps.get hC) fun b => ?_
  refine Keeps.bind hC (hQ.collect family deadline _) fun frame => ?_
  cases frame with
  | some frame => exact Keeps.pure hC _
  | none =>
    refine Keeps.bind hC (Keeps.get hC) fun b => ?_
    exact Keeps.ite (Keeps.throw hC _) (Keeps.throw hC _)

/-- An exchange keeps what the framing and writing of a command and the opening of an answer do. -/
theorem send [Codec δ] {command : Bytes} (ht : Keeps Q (transmit (σ := σ) command))
    (hd : ∀ frame, Keeps Q (ofCoding (Codec.decode frame))) : Keeps Q (send (σ := σ) command) := by
  have hC := hQ.toClosed
  unfold Channel.send
  refine Keeps.bind hC (Keeps.get hC) fun b => ?_
  unfold sendWithin
  refine Keeps.bind hC (Keeps.get hC) fun b => ?_
  refine Keeps.guarded hC _ ?_
  refine Keeps.bind hC (Keeps.change fun b => hQ.onBuffer b _) fun _ => ?_
  refine Keeps.bind hC ht fun _ => ?_
  refine Keeps.bind hC (Keeps.get hC) fun b => ?_
  refine Keeps.bind hC hC.refl fun time => ?_
  refine Keeps.bind hC (hQ.receiveFrame _ _) fun frame => ?_
  exact Keeps.bind hC (Keeps.change fun b => hQ.onLast b _) fun _ => hd frame

end Receptive

/-- A relation between benches that sees no more of them than the driver and what was written. -/
structure Blind (Q : Bench σ δ → Bench σ δ → Prop) : Prop extends Closed Q where
  of_same : ∀ {b b'}, b'.driver = b.driver → b'.world.sent = b.world.sent → Q b b'

namespace Blind

open Act Channel

variable {Q : Bench σ δ → Bench σ δ → Prop} (hQ : Blind Q)
include hQ

theorem ofLink (op : Nat → σ → Outcome σ α) : Keeps Q (ofLink (δ := δ) op) := by
  intro b
  unfold Act.ofLink
  dsimp only
  split <;> exact hQ.of_same rfl rfl

theorem onChannel (f : Channel σ → Channel σ) : Keeps Q (onChannel (δ := δ) f) :=
  Keeps.change fun _ => hQ.of_same rfl rfl

theorem onWorld {f : World → World} (hf : ∀ w, (f w).sent = w.sent) :
    Keeps Q (onWorld (σ := σ) (δ := δ) f) := Keeps.change fun b => hQ.of_same rfl (hf b.world)

theorem ofExcept (out : Except ReaderError α) : Keeps Q (ofExcept (σ := σ) (δ := δ) out) := by
  cases out with
  | ok a => exact Keeps.pure hQ.toClosed a
  | error e => exact Keeps.throw hQ.toClosed e

theorem setTimeout (timeout : Nat) : Keeps Q (setTimeout (σ := σ) (δ := δ) timeout) :=
  hQ.onChannel _

variable [Link σ]

theorem receptive : Receptive Q where
  toClosed := hQ.toClosed
  receive _ := hQ.ofLink _
  onBuffer _ _ := hQ.of_same rfl rfl
  onLast _ _ := hQ.of_same rfl rfl

theorem openLink : Keeps Q (openLink (σ := σ) (δ := δ)) := by
  have hC := hQ.toClosed
  unfold Channel.openLink
  refine Keeps.bind hC (hQ.onChannel _) fun _ => ?_
  refine Keeps.bind hC (Keeps.get hC) fun b => ?_
  exact Keeps.bind hC (hQ.onWorld fun _ => rfl) fun _ => hQ.ofLink _

theorem close : Keeps Q (close (σ := σ) (δ := δ)) := by
  have hC := hQ.toClosed
  unfold Channel.close
  refine Keeps.bind hC (hQ.onChannel _) fun _ => ?_
  refine Keeps.bind hC (Keeps.get hC) fun b => ?_
  refine Keeps.ite ?_ (Keeps.pure hC _)
  exact Keeps.bind hC (hQ.onWorld fun _ => rfl) fun _ => hQ.ofLink _

end Blind

namespace Act

theorem of_ofCoding_ok {step : Coding δ α} {b b' : Bench σ δ} {a : α}
    (h : ofCoding step b = .ok a b') :
    ∃ d, step b.driver = .ok a d ∧ b' = { b with driver := d } := by
  unfold ofCoding at h
  split at h
  · rename_i a' d hstep
    injection h with ha hb
    exact ⟨d, by rw [hstep, ha], hb.symm⟩
  · contradiction

theorem of_ofExcept_ok {out : Except ReaderError α} {a : α} {b c : Bench σ δ}
    (h : ofExcept out b = .ok a c) : out = .ok a ∧ c = b := by
  cases out with
  | ok a' =>
    injection h with ha hb
    exact ⟨congrArg Except.ok ha, hb.symm⟩
  | error e => contradiction

theorem of_onPart_ok {ι : Type} {wrap : ι → δ} {part : ι} {act : Act σ ι α} {a : α} {b c : Bench σ δ}
    (h : onPart wrap part act b = .ok a c) :
    ∃ d, act ⟨b.world, b.channel, part⟩ = .ok a d ∧ c = ⟨d.world, d.channel, wrap d.driver⟩ := by
  unfold onPart at h
  split at h
  · rename_i a' d hact
    injection h with ha hb
    exact ⟨d, by rw [hact, ha], hb.symm⟩
  · contradiction

theorem after_ofCoding (step : Coding δ α) (b : Bench σ δ) :
    after (ofCoding step b) = { b with driver := after (step b.driver) } := by
  unfold ofCoding
  cases step b.driver with
  | ok a d => rfl
  | error e d => rfl

end Act

namespace Channel

open Act

theorem write_after [Link σ] (raw : Bytes) (b : Bench σ δ) :
    (after (write raw b)).driver = b.driver ∧
      (after (write raw b)).world.sent =
        (if b.channel.isConnected then [raw] else []) ++ b.world.sent := by
  have hsame : Blind fun b b' : Bench σ δ => b'.driver = b.driver ∧ b'.world.sent = b.world.sent :=
    ⟨⟨fun _ => ⟨rfl, rfl⟩, fun h h' => ⟨h'.1.trans h.1, h'.2.trans h.2⟩⟩, fun h h' => ⟨h, h'⟩⟩
  have hlink := hsame.ofLink fun now => Link.send (σ := σ) now raw
  unfold write
  rw [get_bind_run]
  by_cases hopen : b.channel.isConnected
  · rw [if_pos hopen, if_pos hopen]
    exact hlink { b with world := b.world.note (.sent raw b.world.isQuiet) }
  · rw [if_neg hopen, if_neg hopen]
    exact hlink b

/-- What a command brings onto the wire: its frame, if it can be framed and the link is open. -/
def framed [Link σ] [Codec δ] (command : Bytes) (b : Bench σ δ) : List Bytes :=
  match (Codec.encode command b.driver : EStateM.Result FrameError δ Bytes) with
  | .ok raw _ => if b.channel.isConnected then [raw] else []
  | .error _ _ => []

theorem framed_cases [Link σ] [Codec δ] (command : Bytes) (b : Bench σ δ) :
    framed command b = [] ∨
      ∃ raw d, Codec.encode command b.driver = .ok raw d ∧ framed command b = [raw] := by
  unfold framed
  cases henc : (Codec.encode command b.driver : EStateM.Result FrameError δ Bytes) with
  | error e d => exact .inl rfl
  | ok raw d =>
    by_cases hopen : b.channel.isConnected
    · exact .inr ⟨raw, d, rfl, if_pos hopen⟩
    · exact .inl (if_neg hopen)

/-- Framing alone changes the driver, and only the frame is written. -/
theorem transmit_after [Link σ] [Codec δ] (command : Bytes) (b : Bench σ δ) :
    (after (transmit command b)).driver = after (Codec.encode command b.driver) ∧
      (after (transmit command b)).world.sent = framed command b ++ b.world.sent := by
  unfold transmit framed
  cases henc : (Codec.encode command b.driver : EStateM.Result FrameError δ Bytes) with
  | error e d =>
    have hrun : ofCoding (Codec.encode command) b = .error (.frame e) { b with driver := d } := by
      rw [ofCoding, henc]
    rw [bind_error hrun]
    exact ⟨rfl, rfl⟩
  | ok raw d =>
    have hrun : ofCoding (Codec.encode command) b = .ok raw { b with driver := d } := by
      rw [ofCoding, henc]
    have hwritten := write_after raw { b with driver := d }
    rw [bind_ok hrun]
    cases hwrite : write raw { b with driver := d } with
    | ok _ b' =>
      rw [hwrite] at hwritten
      rw [bind_ok hwrite]
      exact hwritten
    | error e b' =>
      rw [hwrite] at hwritten
      rw [bind_error hwrite]
      exact hwritten

/-- An answer is what opening the frame that the channel keeps comes to, once the command was
framed. -/
theorem send_answered [Link σ] [Codec δ] {command : Bytes} {answer : Answer} {b b' : Bench σ δ}
    (h : send command b = .ok answer b') :
    b.channel.isConnected ∧ ∃ raw d, Codec.encode command b.driver = .ok raw d ∧
      Codec.decode b'.channel.last.answer d = .ok answer b'.driver := by
  have hsame : Blind fun b b' : Bench σ δ => b'.driver = b.driver :=
    ⟨⟨fun _ => rfl, fun h h' => h'.trans h⟩, fun h _ => h⟩
  unfold send sendWithin at h
  rw [get_bind_run, get_bind_run] at h
  obtain ⟨hopen, h⟩ := of_guarded_ok h
  obtain ⟨_, b₁, hcleared, h⟩ := of_bind_ok h
  obtain ⟨_, b₂, htransmit, h⟩ := of_bind_ok h
  rw [get_bind_run] at h
  obtain ⟨time, b₃, hnow, h⟩ := of_bind_ok h
  obtain ⟨frame, b₄, hreceived, h⟩ := of_bind_ok h
  obtain ⟨_, b₅, hnoted, hdecoded⟩ := of_bind_ok h
  obtain ⟨raw, b₆, hframed, hwritten⟩ := of_bind_ok htransmit
  obtain ⟨d, hencoded, rfl⟩ := of_ofCoding_ok hframed
  obtain ⟨d', hopened, rfl⟩ := of_ofCoding_ok hdecoded
  have hbefore : b₁.driver = b.driver := (hsame.onChannel _).of_ok hcleared
  have hafter : b₅.driver = d := by
    have hsent : b₂.driver = d := by
      have hdriver := (transmit_after command b₁).1
      rw [htransmit, hencoded] at hdriver
      exact hdriver
    have htime : b₃.driver = b₂.driver := by
      injection hnow with _ hb
      rw [hb]
    have hframe : b₄.driver = b₃.driver := (hsame.receptive.receiveFrame _ _).of_ok hreceived
    have hlast : b₅.driver = b₄.driver := (hsame.onChannel _).of_ok hnoted
    rw [hlast, hframe, htime, hsent]
  have hkept : b₅.channel.last.answer = frame := by
    injection hnoted with _ hb
    rw [← hb]
  rw [hbefore] at hencoded
  rw [hafter] at hopened
  refine ⟨Decidable.not_not.mp hopen, raw, d, hencoded, ?_⟩
  dsimp only
  rw [hkept]
  exact hopened

/-- Where one answer tells everything, it came on the frame that the channel keeps. -/
theorem of_asked_ok [Link σ] [Codec δ] {read : Answer → Except ReaderError α} {command : Bytes}
    {a : α} {b c : Bench σ δ}
    (h : (do Act.ofExcept (read (← send command)) : Act σ δ α) b = .ok a c) :
    ∃ answer, read answer = .ok a ∧
      ∃ d, Codec.decode c.channel.last.answer d = .ok answer c.driver := by
  obtain ⟨answer, d, hsend, hrun⟩ := of_bind_ok h
  obtain ⟨hread, rfl⟩ := of_ofExcept_ok hrun
  obtain ⟨-, raw, e, -, hdecoded⟩ := send_answered hsend
  exact ⟨answer, hread, e, hdecoded⟩

/-- An exchange writes the frame of its command, however it ends. -/
theorem send_sent [Link σ] [Codec δ] (command : Bytes) (b : Bench σ δ) :
    (after (send command b)).world.sent = framed command b ++ b.world.sent := by
  have hQ : Blind fun b b' : Bench σ δ => b'.world.sent = b.world.sent :=
    ⟨⟨fun _ => rfl, fun h h' => h'.trans h⟩, fun _ h => h⟩
  have hC := hQ.toClosed
  have hrest : ∀ limit, Keeps (fun b b' : Bench σ δ => b'.world.sent = b.world.sent) (do
      let frame ← receiveFrame (Codec.family (← get).driver) ((← now) + limit)
      onChannel fun c => { c with last := { c.last with answer := frame } }
      ofCoding (Codec.decode frame) : Act σ δ Answer) := by
    intro limit
    refine Keeps.bind hC (Keeps.get hC) fun b => ?_
    refine Keeps.bind hC hC.refl fun time => ?_
    refine Keeps.bind hC (hQ.receptive.receiveFrame _ _) fun frame => ?_
    refine Keeps.bind hC (hQ.onChannel _) fun _ b => ?_
    rw [after_ofCoding]
  unfold send sendWithin
  rw [get_bind_run, get_bind_run]
  by_cases hopen : b.channel.isConnected
  · rw [if_neg (not_not_intro hopen)]
    have hwritten := (transmit_after command (cleared b)).2
    change (after ((transmit command >>= _) (cleared b))).world.sent = _
    cases hrun : transmit command (cleared b) with
    | error e t =>
      rw [hrun] at hwritten
      rw [bind_error hrun]
      exact hwritten
    | ok _ t =>
      rw [hrun] at hwritten
      rw [bind_ok hrun]
      exact (hrest _ t).trans hwritten
  · rw [if_pos hopen]
    have hnone : framed command b = [] := by
      unfold framed
      split
      · exact if_neg hopen
      · rfl
    rw [hnone]
    rfl

end Channel

namespace Act

/-- However an act ends, `R` relates the driver before to the driver after. -/
def KeepsDriver (R : δ → δ → Prop) (act : Act σ δ α) : Prop :=
  Keeps (fun b b' : Bench σ δ => R b.driver b'.driver) act

theorem closed_driver {R : δ → δ → Prop} (hR : Closed R) :
    Closed (fun b b' : Bench σ δ => R b.driver b'.driver) where
  refl b := hR.refl b.driver
  trans hst htu := hR.trans hst htu

theorem blind_driver {R : δ → δ → Prop} (hR : Closed R) :
    Blind (fun b b' : Bench σ δ => R b.driver b'.driver) where
  toClosed := closed_driver hR
  of_same := by
    intro b b' hdriver _
    rw [hdriver]
    exact hR.refl b.driver

/-- While `J` holds of the driver it goes on to hold, and nothing is written that is not in `P`. -/
def Guards (J : δ → Prop) (P : Bytes → Prop) (b b' : Bench σ δ) : Prop :=
  J b.driver → J b'.driver ∧ World.Wrote P b.world b'.world

theorem blind_guards {J : δ → Prop} {P : Bytes → Prop} : Blind (Guards (σ := σ) J P) where
  refl _ hJ := ⟨hJ, .of_same rfl⟩
  trans := by
    intro b b' b'' h h' hJ
    obtain ⟨hJ', hw⟩ := h hJ
    obtain ⟨hJ'', hw'⟩ := h' hJ'
    exact ⟨hJ'', hw.trans hw'⟩
  of_same := by
    intro b b' hdriver hsent hJ
    rw [hdriver]
    exact ⟨hJ, .of_same hsent⟩

end Act

namespace Channel

open Act

variable [Link σ] [Codec δ]

/-- What framing and opening keep, a whole exchange keeps, also one that fails on the line. -/
theorem send_keeps {R : δ → δ → Prop} (hR : Closed R)
    (henc : ∀ command, Keeps R (Codec.encode command : Coding δ Bytes))
    (hdec : ∀ frame, Keeps R (Codec.decode frame : Coding δ Answer)) (command : Bytes) :
    KeepsDriver R (send (σ := σ) (δ := δ) command) := by
  apply (blind_driver hR).receptive.send
  · intro b
    rw [(transmit_after command b).1]
    exact henc command b.driver
  · intro frame b
    rw [after_ofCoding]
    exact hdec frame b.driver

/-- Looking for a reader with its ping keeps what exchanges keep. -/
theorem ping_keeps {Q : Bench σ δ → Bench σ δ → Prop} (hC : Closed Q)
    (hsend : ∀ command, Keeps Q (send (σ := σ) (δ := δ) command)) (ping : δ → Bytes)
    (accepts : δ → Answer → Bool) :
    Keeps Q (do
      let answer ← Channel.send (ping (← get).driver)
      return accepts (← get).driver answer : Act σ δ Bool) := by
  refine Keeps.bind hC (Keeps.get hC) fun b => ?_
  refine Keeps.bind hC (hsend _) fun answer => ?_
  exact Keeps.bind hC (Keeps.get hC) fun b => Keeps.pure hC _

/-- An exchange keeps what framing and opening keep, and writes what framing comes to. -/
theorem send_guards {J : δ → Prop} {P : Bytes → Prop} {command : Bytes}
    (henc : ∀ d, J d → J (after (Codec.encode command d)) ∧
      ∀ raw d', Codec.encode command d = .ok raw d' → P raw)
    (hdec : ∀ frame d, J d → J (after (Codec.decode frame d))) :
    Keeps (Guards J P) (send (σ := σ) command) := by
  apply blind_guards.receptive.send
  · intro b hJ
    obtain ⟨hkept, hframed⟩ := henc b.driver hJ
    obtain ⟨hdriver, hsent⟩ := transmit_after command b
    rw [hdriver]
    obtain hnone | ⟨raw, d, hraw, hone⟩ := framed_cases command b
    · rw [hnone] at hsent
      exact ⟨hkept, .of_same hsent⟩
    · rw [hone] at hsent
      exact ⟨hkept, .of_one hsent (hframed raw d hraw)⟩
  · intro frame b hJ
    rw [after_ofCoding]
    exact ⟨hdec frame b.driver hJ, .of_same rfl⟩

end Channel

end CardReader
