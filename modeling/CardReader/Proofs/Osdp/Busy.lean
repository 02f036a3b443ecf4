import CardReader.Proofs.Bystander
import CardReader.Proofs.Osdp.Numbering
import CardReader.Proofs.Rounds

namespace CardReader

open Run Act

variable {σ α : Type}

theorem Bench.bystander_later [Link σ] :
    Bystander (fun b b' : Bench σ Unit => b.world.clock ≤ b'.world.clock) := by
  have hlink : ∀ {α : Type} (op : Nat → σ → Outcome σ α),
      Keeps (fun b b' : Bench σ Unit => b.world.clock ≤ b'.world.clock) (ofLink op) := by
    intro α op b
    rw [after_ofLink]
    exact Nat.le_add_right _ _
  exact
    { refl := fun _ => le_rfl
      trans := le_trans
      receive := fun _ => hlink _
      onBuffer := fun _ _ => le_rfl
      onLast := fun _ _ => le_rfl
      send := fun _ => hlink _
      noted := fun _ _ _ => le_rfl
      later := fun _ _ => le_max_left _ _ }

namespace Osdp.Device

/-- What an OSDP host brings onto the wire is the command under its present number. -/
theorem encode_ok {command raw : Bytes} {d d' : Device}
    (h : Codec.encode command d = .ok raw d') : raw = d.framer.wire command ∧ d' = d := by
  have hkept : d' = d := (encode_kept command).of_ok h
  change Coding.onPart framer (fun f d => { d with framer := f }) (Framer.encode command) d =
    .ok raw d' at h
  unfold Coding.onPart at h
  cases hf : Framer.encode command d.framer with
  | ok raw' f =>
    rw [hf] at h
    injection h with hraw _
    exact ⟨Framer.sent_eq (by rw [hf, hraw]; rfl), hkept⟩
  | error e f =>
    rw [hf] at h
    contradiction

/-- An answer is the reply that a frame opens as, and moves the number of the host on. -/
theorem decode_ok {frame : Bytes} {answer : Answer} {d d' : Device}
    (h : Codec.decode frame d = .ok answer d') : d' = d.moved 1 ∧
      ∃ reply, openReply d.framer.address frame = .ok reply ∧ answer = ⟨reply.data, reply.code⟩ := by
  change Coding.onPart framer (fun f d => { d with framer := f }) (Framer.decode frame) d =
    .ok answer d' at h
  unfold Coding.onPart at h
  rw [Framer.decode_run] at h
  cases hopened : openReply d.framer.address frame with
  | error e =>
    rw [hopened] at h
    contradiction
  | ok reply =>
    rw [hopened] at h
    dsimp only at h
    split_ifs at h with hsequence hcode
    injection h with hanswer hd
    exact ⟨hd.symm, reply, rfl, hanswer.symm⟩

variable [Link σ]

theorem send_clock (command : Bytes) (b : Bench σ Device) :
    b.world.clock ≤ (after (Channel.send command b)).world.clock :=
  Bench.bystander_later.exchange command b

/-- An answer is to one frame that was written, and moves the number on. -/
theorem send_ok {command : Bytes} {answer : Answer} {b c : Bench σ Device}
    (h : Channel.send command b = .ok answer c) :
    c.driver = b.driver.moved 1 ∧
      c.world.sent = b.driver.framer.wire command :: b.world.sent := by
  obtain ⟨hopen, raw, d, hencoded, hdecoded⟩ := Channel.send_answered h
  have hsent := Channel.send_sent command b
  unfold Channel.framed at hsent
  rw [h, hencoded] at hsent
  dsimp only at hsent
  rw [if_pos hopen] at hsent
  obtain ⟨hraw, rfl⟩ := encode_ok hencoded
  exact ⟨(decode_ok hdecoded).1, by rw [← hraw]; exact hsent⟩

/-- One try: an exchange, and a pause if the device is busy and time is left. -/
def attempt (giveUp : Nat) (command : Bytes) : Act σ Device (Option Answer) := do
  let answer ← Channel.send command
  if answer.status ≠ busyReply then return some answer
  let next := (← Act.now) + busyPause
  if giveUp < next then throw (.badState .stayedBusy)
  Act.onWorld (World.passUntil next)
  return none

/-- The tries of a busy device are the rounds of a loop. -/
theorem sendUntil_eq_loop (giveUp : Nat) (command : Bytes) (tries : Nat) :
    sendUntil (σ := σ) giveUp command tries =
      loop (attempt giveUp command) (throw (.badState .stayedBusy)) tries := by
  induction tries with
  | zero => rfl
  | succ tries ih =>
    unfold sendUntil loop attempt
    rw [ih, bind_assoc]
    congr 1
    funext answer
    by_cases hbusy : answer.status ≠ busyReply
    · rw [if_pos hbusy, if_pos hbusy]
      rfl
    · rw [if_neg hbusy, if_neg hbusy, bind_assoc]
      congr 1
      funext time
      by_cases hlate : giveUp < time + busyPause
      · rw [if_pos hlate, if_pos hlate]
        rfl
      · rw [if_neg hlate, if_neg hlate]
        rfl

/-- What becomes of a try: the exchange fails, or the device answers, or it is busy for good, or
there is another try after the pause. -/
theorem attempt_cases (giveUp : Nat) (command : Bytes) (b : Bench σ Device) :
    (∃ e c, Channel.send command b = .error e c ∧ attempt giveUp command b = .error e c) ∨
    ∃ answer c, Channel.send command b = .ok answer c ∧
      (answer.status ≠ busyReply ∧ attempt giveUp command b = .ok (some answer) c ∨
      answer.status = busyReply ∧ giveUp < c.world.clock + busyPause ∧
        attempt giveUp command b = .error (.badState .stayedBusy) c ∨
      answer.status = busyReply ∧ c.world.clock + busyPause ≤ giveUp ∧
        attempt giveUp command b =
          .ok none { c with world := c.world.passUntil (c.world.clock + busyPause) }) := by
  unfold attempt
  cases hsend : (Channel.send command b : EStateM.Result ReaderError (Bench σ Device) Answer) with
  | error e c => exact .inl ⟨e, c, rfl, bind_error hsend _⟩
  | ok answer c =>
    refine .inr ⟨answer, c, rfl, ?_⟩
    rw [bind_ok hsend]
    by_cases hbusy : answer.status ≠ busyReply
    · rw [if_pos hbusy]
      exact .inl ⟨hbusy, rfl⟩
    · rw [if_neg hbusy]
      have hnow : (Act.now : Act σ Device Nat) c = .ok c.world.clock c := rfl
      rw [bind_ok hnow]
      by_cases hlate : giveUp < c.world.clock + busyPause
      · rw [if_pos hlate]
        exact .inr (.inl ⟨not_not.mp hbusy, hlate, rfl⟩)
      · rw [if_neg hlate]
        exact .inr (.inr ⟨not_not.mp hbusy, Nat.le_of_not_lt hlate, rfl⟩)

/-- Another try follows only an answer that says busy, with time left for the pause. -/
theorem attempt_again {giveUp : Nat} {command : Bytes} {b c : Bench σ Device}
    (h : attempt giveUp command b = .ok none c) :
    ∃ answer d, Channel.send command b = .ok answer d ∧ answer.status = busyReply ∧
      d.world.clock + busyPause ≤ giveUp ∧
      c = { d with world := d.world.passUntil (d.world.clock + busyPause) } := by
  obtain ⟨e, d, -, hattempt⟩ | ⟨answer, d, hsend, ⟨-, hattempt⟩ | ⟨-, -, hattempt⟩ |
    ⟨hbusy, htime, hattempt⟩⟩ := attempt_cases giveUp command b
  · rw [hattempt] at h
    contradiction
  · rw [hattempt] at h
    injection h with hnone _
    contradiction
  · rw [hattempt] at h
    contradiction
  · rw [hattempt] at h
    injection h with _ hc
    exact ⟨answer, d, hsend, hbusy, htime, hc.symm⟩

/-- Tries that end with one end as its exchange does, unless the device is busy for good. -/
theorem attempt_ends {giveUp : Nat} {command : Bytes} {b : Bench σ Device}
    {out : EStateM.Result ReaderError (Bench σ Device) Answer}
    (h : EndsAs (attempt giveUp command b) out) :
    after out = after (Channel.send command b) ∧
      (∀ e, outcome (Channel.send command b) = .error e → outcome out = .error e) ∧
      ∀ answer, outcome (Channel.send command b) = .ok answer →
        answer.status ≠ busyReply ∧ outcome out = .ok answer ∨
        answer.status = busyReply ∧ outcome out = .error (.badState .stayedBusy) ∧
          giveUp < (after (Channel.send command b)).world.clock + busyPause := by
  obtain ⟨e, c, hsend, hattempt⟩ | ⟨answer, c, hsend, htry⟩ := attempt_cases giveUp command b
  · rw [hattempt] at h
    rw [hsend, h.failed]
    exact ⟨rfl, fun _ he => he, nofun⟩
  · rw [hsend]
    obtain ⟨hstatus, hattempt⟩ | ⟨hbusy, hlate, hattempt⟩ | ⟨-, -, hattempt⟩ := htry
    all_goals rw [hattempt] at h
    · rw [h.settled]
      refine ⟨rfl, nofun, fun other hother => .inl ?_⟩
      rw [← Except.ok.inj hother]
      exact ⟨hstatus, rfl⟩
    · rw [h.failed]
      refine ⟨rfl, nofun, fun other hother => .inr ?_⟩
      rw [← Except.ok.inj hother]
      exact ⟨hbusy, rfl, hlate⟩
    · exact absurd h EndsAs.not_again

theorem exchanged_not_badState :
    ReaderError.Exchanged fun e => ∀ cause, e ≠ .badState cause where
  frame _ _ := nofun
  link _ _ := nofun
  timeout _ _ := nofun
  notConnected _ := nofun

/-- Each try but the first begins a pause later, at least, than the one before. -/
theorem attempt_falls (giveUp : Nat) (command : Bytes) :
    Falls (attempt (σ := σ) giveUp command) (fun b => b.world.clock ≤ giveUp)
      (fun b => (giveUp - b.world.clock) / busyPause) := by
  have hagain : ∀ {b c : Bench σ Device}, attempt giveUp command b = .ok none c →
      c.world.clock ≤ giveUp ∧ b.world.clock + busyPause ≤ c.world.clock := by
    intro b c h
    obtain ⟨answer, d, hsend, -, htime, rfl⟩ := attempt_again h
    -- The exchange may take no time at all; what counts is the pause.
    have hclock := send_clock command b
    rw [hsend] at hclock
    change b.world.clock ≤ d.world.clock at hclock
    change max _ _ ≤ _ ∧ _ ≤ max _ _
    omega
  refine ⟨fun _ h => (hagain h).1, fun {b c} hb h => ?_⟩
  obtain ⟨htime, hlater⟩ := hagain h
  have hstep : (giveUp - c.world.clock) / busyPause + 1 =
      (giveUp - c.world.clock + busyPause) / busyPause :=
    (Nat.add_div_right _ (by decide)).symm
  rw [Nat.lt_iff_add_one_le, hstep]
  exact Nat.div_le_div_right (by omega)

/-- The benches at which the tries of a command begin. -/
def tries (command : Bytes) (b : Bench σ Device) : List (Bench σ Device) :=
  rounds (attempt (b.world.clock + busyLimit) command) (busyLimit / busyPause + 1) b

/-- Tries write one frame each, except that the last one may write none, and the number moves on
from frame to frame. -/
theorem loop_frames (giveUp : Nat) (command : Bytes) (n : Nat) (b : Bench σ Device) :
    let out := loop (attempt giveUp command) (throw (.badState .stayedBusy)) n b
    ∃ frames : List Bytes, (after out).world.sent = frames.reverse ++ b.world.sent ∧
      frames.length ≤ (rounds (attempt giveUp command) n b).length ∧
      ∀ k raw, frames[k]? = some raw → raw = (b.driver.framer.moved k).wire command := by
  dsimp only
  induction n generalizing b with
  | zero => exact ⟨[], rfl, le_rfl, nofun⟩
  | succ n ih =>
    obtain ⟨c, hagain⟩ | hlast := again_or_last (attempt giveUp command) b
    · obtain ⟨answer, d, hsend, -, -, rfl⟩ := attempt_again hagain
      obtain ⟨hdriver, hsent⟩ := send_ok hsend
      obtain ⟨frames, hframes, hlength, hnumber⟩ :=
        ih { d with world := d.world.passUntil (d.world.clock + busyPause) }
      rw [loop_again hagain, rounds_again hagain]
      refine ⟨b.driver.framer.wire command :: frames, ?_, Nat.succ_le_succ hlength, ?_⟩
      · rw [hframes, List.reverse_cons, List.append_assoc]
        exact congrArg (frames.reverse ++ ·) hsent
      · intro k raw hraw
        cases k with
        | zero => exact (Option.some.inj hraw).symm
        | succ k =>
          rw [hnumber k raw hraw]
          dsimp only
          rw [hdriver, Nat.add_comm k 1, ← Framer.moved_moved]
          rfl
    -- The last try may have failed before a frame was written.
    · rw [(attempt_ends (loop_last hlast n)).1, rounds_last hlast, Channel.send_sent]
      obtain hnone | ⟨raw, d, hencoded, hone⟩ := Channel.framed_cases command b
      · rw [hnone]
        exact ⟨[], rfl, Nat.zero_le _, nofun⟩
      · rw [hone]
        refine ⟨[raw], rfl, le_rfl, ?_⟩
        intro k raw' hraw
        cases k with
        | zero => rw [← Option.some.inj hraw, (encode_ok hencoded).1]; rfl
        | succ k => contradiction

omit [Link σ] in
theorem intervals_left (start : Nat) : (start + busyLimit - start) / busyPause = 40 := by
  rw [Nat.add_sub_cancel_left]
  rfl

theorem send_eq_loop (command : Bytes) (b : Bench σ Device) :
    Device.send command b = loop (attempt (b.world.clock + busyLimit) command)
      (throw (.badState .stayedBusy)) (busyLimit / busyPause + 1) b :=
  congrFun (sendUntil_eq_loop (b.world.clock + busyLimit) command _) b

theorem length_tries_le (command : Bytes) (b : Bench σ Device) :
    (tries command b).length ≤ 41 := by
  have hle := (attempt_falls (b.world.clock + busyLimit) command).length_le
    (Nat.le_add_right b.world.clock busyLimit) (busyLimit / busyPause + 1)
  rw [intervals_left] at hle
  exact hle

/-- The last try is the end of the command, and its exchange decides. -/
theorem send_decided (command : Bytes) (b : Bench σ Device) :
    ∃ last, (tries command b).getLast? = some last ∧
      after (Device.send command b) = after (Channel.send command last) ∧
      (∀ e, outcome (Channel.send command last) = .error e →
        outcome (Device.send command b) = .error e ∧ ∀ cause, e ≠ .badState cause) ∧
      ∀ answer, outcome (Channel.send command last) = .ok answer →
        answer.status ≠ busyReply ∧ outcome (Device.send command b) = .ok answer ∨
        answer.status = busyReply ∧
          outcome (Device.send command b) = .error (.badState .stayedBusy) ∧
          b.world.clock + 1950 < (after (Channel.send command last)).world.clock := by
  obtain ⟨last, hlast, hends⟩ := (attempt_falls (b.world.clock + busyLimit) command).ends
    (Nat.le_add_right b.world.clock busyLimit) (throw (.badState .stayedBusy))
    (n := busyLimit / busyPause + 1) (by rw [intervals_left]; decide)
  rw [← send_eq_loop] at hends
  obtain ⟨hafter, hfailed, hanswered⟩ := attempt_ends hends
  refine ⟨last, hlast, hafter, fun e he => ⟨hfailed e he, ?_⟩, fun answer hanswer => ?_⟩
  · cases hsend : (Channel.send command last :
        EStateM.Result ReaderError (Bench σ Device) Answer) with
    | ok answer c =>
      rw [hsend] at he
      contradiction
    | error e' c =>
      rw [hsend] at he
      rw [← Except.error.inj he]
      exact Channel.send_fails exchanged_not_badState command last e' c hsend
  · refine (hanswered answer hanswer).imp_right fun ⟨hbusy, hgiven, hlate⟩ => ⟨hbusy, hgiven, ?_⟩
    rw [busyLimit, busyPause] at hlate
    omega

/-- The answer to a command is the reply that the frame of the last try opens as. -/
theorem send_opened {command : Bytes} {answer : Answer} {b c : Bench σ Device}
    (h : Device.send command b = .ok answer c) :
    ∃ reply, openReply c.driver.framer.address c.channel.last.answer = .ok reply ∧
      answer = ⟨reply.data, reply.code⟩ := by
  obtain ⟨last, -, hafter, hfailed, hanswered⟩ := send_decided command b
  rw [h] at hafter hfailed hanswered
  cases hsend : (Channel.send command last :
      EStateM.Result ReaderError (Bench σ Device) Answer) with
  | error e d =>
    obtain ⟨hfailure, -⟩ := hfailed e (by rw [hsend]; rfl)
    contradiction
  | ok other d =>
    rw [hsend] at hafter
    obtain ⟨-, hother⟩ | ⟨-, hstayed, -⟩ := hanswered other (by rw [hsend]; rfl)
    · obtain ⟨-, raw, e, hencoded, hdecoded⟩ := Channel.send_answered hsend
      obtain ⟨hmoved, reply, hopened, hreply⟩ := decode_ok hdecoded
      have hlast : c = d := hafter
      have haddress : d.driver.framer.address = e.framer.address := by
        rw [hmoved]
        rfl
      refine ⟨reply, ?_, (Except.ok.inj hother).trans hreply⟩
      rw [hlast, haddress]
      exact hopened
    · contradiction

/-- A command to a busy device is tried 41 times at most, the last time within two seconds. Until
then the device was busy. The last exchange decides: what fails or answers otherwise is returned,
and a device that is busy again is given up only if the time is nearly over. Each frame carries the
number that follows the busy replies before it. -/
theorem send_bounded (command : Bytes) (b : Bench σ Device) :
    let tries := Device.tries command b
    let out := Device.send command b
    (tries.head? = some b ∧ tries.length ≤ 41 ∧
      ∀ t ∈ tries, t.world.clock ≤ b.world.clock + 2000) ∧
    (∀ t ∈ tries.dropLast, ∃ answer, outcome (Channel.send command t) = .ok answer ∧
      answer.status = busyReply) ∧
    (∃ last, tries.getLast? = some last ∧ after out = after (Channel.send command last) ∧
      (∀ e, outcome (Channel.send command last) = .error e →
        outcome out = .error e ∧ ∀ cause, e ≠ .badState cause) ∧
      ∀ answer, outcome (Channel.send command last) = .ok answer →
        answer.status ≠ busyReply ∧ outcome out = .ok answer ∨
        answer.status = busyReply ∧ outcome out = .error (.badState .stayedBusy) ∧
          b.world.clock + 1950 < (after (Channel.send command last)).world.clock) ∧
    ∃ frames : List Bytes, (after out).world.sent = frames.reverse ++ b.world.sent ∧
      frames.length ≤ tries.length ∧ frames.length ≤ 41 ∧
      ∀ k raw, frames[k]? = some raw → raw = (b.driver.framer.moved k).wire command ∧
        raw[4]? = some (Framer.succ^[k] b.driver.framer.sequence ||| crcBit) := by
  have hfalls := attempt_falls (σ := σ) (b.world.clock + busyLimit) command
  have hb : b.world.clock ≤ b.world.clock + busyLimit := Nat.le_add_right _ _
  have hlength := length_tries_le command b
  refine ⟨⟨rfl, hlength, fun t ht => hfalls.holds hb _ t ht⟩, fun t ht => ?_,
    send_decided command b, ?_⟩
  · obtain ⟨u, hagain⟩ := mem_dropLast_rounds ht
    obtain ⟨answer, d, hsend, hbusy, -⟩ := attempt_again hagain
    exact ⟨answer, by rw [hsend]; rfl, hbusy⟩
  · obtain ⟨frames, hframes, hfew, hnumber⟩ := loop_frames (b.world.clock + busyLimit) command
      (busyLimit / busyPause + 1) b
    rw [← send_eq_loop] at hframes
    refine ⟨frames, hframes, hfew, hfew.trans hlength, fun k raw hraw => ?_⟩
    rw [hnumber k raw hraw]
    exact ⟨rfl, rfl⟩

end Osdp.Device

end CardReader
