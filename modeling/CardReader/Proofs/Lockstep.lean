import CardReader.Detection
import CardReader.Proofs.Channel

namespace CardReader

namespace Run

variable {ε κ κ' α β : Type}

/-- Two runs end with the same result or the same failure, in states that `Q` relates. -/
inductive Matched (Q : κ → κ' → Prop) : EStateM.Result ε κ α → EStateM.Result ε κ' α → Prop where
  | ok {s : κ} {t : κ'} (a : α) (h : Q s t) : Matched Q (.ok a s) (.ok a t)
  | error {s : κ} {t : κ'} (e : ε) (h : Q s t) : Matched Q (.error e s) (.error e t)

theorem Matched.mono {P Q : κ → κ' → Prop} (hQ : ∀ s t, P s t → Q s t)
    {out : EStateM.Result ε κ α} {out' : EStateM.Result ε κ' α} (h : Matched P out out') :
    Matched Q out out' := by
  cases h with
  | ok a hP => exact .ok a (hQ _ _ hP)
  | error e hP => exact .error e (hQ _ _ hP)

theorem Matched.after {Q : κ → κ' → Prop} {out : EStateM.Result ε κ α}
    {out' : EStateM.Result ε κ' α} (h : Matched Q out out') : Q (after out) (after out') := by
  cases h with
  | ok a hQ => exact hQ
  | error e hQ => exact hQ

theorem Matched.and {P Q : κ → κ' → Prop} {out : EStateM.Result ε κ α}
    {out' : EStateM.Result ε κ' α} (h : Matched P out out')
    (hQ : Q (Run.after out) (Run.after out')) :
    Matched (fun s t => P s t ∧ Q s t) out out' := by
  cases h with
  | ok a hP => exact .ok a ⟨hP, hQ⟩
  | error e hP => exact .error e ⟨hP, hQ⟩

theorem Matched.outcome_eq {Q : κ → κ' → Prop} {out : EStateM.Result ε κ α}
    {out' : EStateM.Result ε κ' α} (h : Matched Q out out') : outcome out' = outcome out := by
  cases h with
  | ok a hQ => rfl
  | error e hQ => rfl

/-- From states that `P` relates, the runs end alike in states that `Q` relates. -/
def Lockstep (P Q : κ → κ' → Prop) (x : EStateM ε κ α) (y : EStateM ε κ' α) : Prop :=
  ∀ s t, P s t → Matched Q (x s) (y t)

/-- A failure of the first step is one of the sequence, and the first state it leads to the last. -/
theorem Matched.bind {Q : κ → κ' → Prop} {x : EStateM ε κ α} {y : EStateM ε κ' α}
    {f : α → EStateM ε κ β} {g : α → EStateM ε κ' β} {s : κ} {t : κ'}
    (hx : Matched Q (x s) (y t)) (hf : ∀ a, Lockstep Q Q (f a) (g a)) :
    Matched Q ((x >>= f) s) ((y >>= g) t) := by
  generalize hs : x s = out, ht : y t = out' at hx
  cases hx with
  | ok a h =>
    rw [bind_ok hs, bind_ok ht]
    exact hf a _ _ h
  | error e h =>
    rw [bind_error hs, bind_error ht]
    exact .error e h

namespace Lockstep

variable {P Q : κ → κ' → Prop}

theorem pure (a : α) : Lockstep P P (Pure.pure a : EStateM ε κ α) (Pure.pure a) :=
  fun _ _ h => .ok a h

theorem same (x : EStateM ε κ α) : Lockstep Eq Eq x x := by
  rintro s _ rfl
  cases x s with
  | ok a t => exact .ok a rfl
  | error e t => exact .error e rfl

theorem throw (e : ε) :
    Lockstep P P (MonadExcept.throw e : EStateM ε κ α) (MonadExcept.throw e) :=
  fun _ _ h => .error e h

theorem change {f : κ → κ} {g : κ' → κ'} (h : ∀ s t, P s t → Q (f s) (g t)) :
    Lockstep (ε := ε) P Q (modify f : EStateM ε κ PUnit) (modify g) :=
  fun s t hst => Matched.ok PUnit.unit (h s t hst)

theorem ite {c : Prop} [Decidable c] {x x' : EStateM ε κ α} {y y' : EStateM ε κ' α}
    (hx : Lockstep P Q x y) (hy : Lockstep P Q x' y') :
    Lockstep P Q (if c then x else x') (if c then y else y') := by
  by_cases h : c
  · rw [if_pos h, if_pos h]
    exact hx
  · rw [if_neg h, if_neg h]
    exact hy

theorem bind {x : EStateM ε κ α} {y : EStateM ε κ' α} {f : α → EStateM ε κ β}
    {g : α → EStateM ε κ' β} (hx : Lockstep P Q x y) (hf : ∀ a, Lockstep Q Q (f a) (g a)) :
    Lockstep P Q (x >>= f) (y >>= g) :=
  fun s t h => (hx s t h).bind hf

end Lockstep

end Run

open Run Act

variable {σ δ ι α : Type}

/-- Operations at two times end alike: with the same result after the same while, and with links
that `R` relates then. -/
structure Outcome.Agrees (R : Nat → σ → Nat → σ → Prop) (now now' : Nat)
    (out out' : Outcome σ α) : Prop where
  result_eq : out'.result = out.result
  elapsed_eq : out'.elapsed = out.elapsed
  related : R (now + out.elapsed) out.link (now' + out.elapsed) out'.link

/-- Links that `R` relates at two times cannot be told apart by what is done to them then. -/
structure Link.Bisimulation [Link σ] (R : Nat → σ → Nat → σ → Prop) : Prop where
  name_eq : ∀ {now s now' s'}, R now s now' s' → Link.name s' = Link.name s
  open_eq : ∀ {now s now' s'}, R now s now' s' → Link.isOpen s' = Link.isOpen s
  backlog_eq : ∀ {now s now' s'}, R now s now' s' → Link.backlog s' = Link.backlog s
  connect : ∀ {now s now' s'}, R now s now' s' →
    Outcome.Agrees R now now' (Link.connect now s) (Link.connect now' s')
  disconnect : ∀ {now s now' s'}, R now s now' s' →
    Outcome.Agrees R now now' (Link.disconnect now s) (Link.disconnect now' s')
  send : ∀ {now s now' s'}, R now s now' s' → ∀ data,
    Outcome.Agrees R now now' (Link.send now data s) (Link.send now' data s')
  receive : ∀ {now s now' s'}, R now s now' s' → ∀ wait,
    Outcome.Agrees R now now' (Link.receive now (now + wait) s)
      (Link.receive now' (now' + wait) s')

/-- A candidate that behaves the same whenever it is made: its device follows a fixed script. -/
def Link.Fixed [Link σ] (make : Nat → σ) : Prop :=
  ∃ R : Nat → σ → Nat → σ → Prop, Bisimulation R ∧ ∀ now now', R now (make now) now' (make now')

namespace ScriptedLink

/-- Deliveries with their times counted from `now`; what is overdue is ready. -/
def ahead (now : Nat) (queue : List (Nat × Delivery)) : List (Nat × Delivery) :=
  queue.map fun e => (e.1 - now, e.2)

@[simp] theorem length_ahead (now : Nat) (queue : List (Nat × Delivery)) :
    (ahead now queue).length = queue.length := by simp [ahead]

theorem ahead_append (now : Nat) (queue more : List (Nat × Delivery)) :
    ahead now (queue ++ more) = ahead now queue ++ ahead now more := by simp [ahead]

theorem ahead_schedule (now : Nat) (events : List (Nat × Delivery)) :
    ahead now (schedule now events) = events := by
  induction events with
  | nil => rfl
  | cons event events ih =>
    have hhead : now + event.1 - now = event.1 := Nat.add_sub_cancel_left now event.1
    simp only [ahead, schedule, List.map_cons, hhead] at ih ⊢
    rw [ih]

theorem ahead_later (now elapsed : Nat) (queue : List (Nat × Delivery)) :
    ahead (now + elapsed) queue = ahead elapsed (ahead now queue) := by
  simp [ahead, Nat.sub_sub]

/-- The devices differ in the times of their deliveries alone, and not when each counts them from
its own time. -/
def Alike (now : Nat) (s : ScriptedLink) (now' : Nat) (s' : ScriptedLink) : Prop :=
  ∃ queue, s' = { s with queue } ∧ ahead now' queue = ahead now s.queue

theorem Alike.later {now now' : Nat} {s s' : ScriptedLink} (h : Alike now s now' s')
    (elapsed : Nat) : Alike (now + elapsed) s (now' + elapsed) s' := by
  obtain ⟨queue, rfl, hqueue⟩ := h
  refine ⟨queue, rfl, ?_⟩
  rw [ahead_later, ahead_later, hqueue]

theorem send_alike {now now' : Nat} {s s' : ScriptedLink} (h : Alike now s now' s') :
    Outcome.Agrees Alike now now' (send now s) (send now' s') := by
  obtain ⟨queue, rfl, hqueue⟩ := h
  unfold send
  dsimp only
  by_cases hopen : s.connected
  · rw [if_neg (not_not_intro hopen), if_neg (not_not_intro hopen)]
    cases s.reactions.headD s.otherwise with
    | refuse cause => exact ⟨rfl, rfl, queue, rfl, hqueue⟩
    | deliver events =>
      refine ⟨rfl, rfl, queue ++ schedule now' events, rfl, ?_⟩
      simp only [Nat.add_zero, ahead_append, ahead_schedule, hqueue]
  · rw [if_pos hopen, if_pos hopen]
    exact ⟨rfl, rfl, queue, rfl, hqueue⟩

theorem silence_alike {now now' : Nat} {s s' : ScriptedLink} (h : Alike now s now' s')
    (wait : Nat) :
    Outcome.Agrees (α := Bytes) Alike now now' ⟨.ok [], s, now + wait - now⟩
      ⟨.ok [], s', now' + wait - now'⟩ := by
  rw [Nat.add_sub_cancel_left, Nat.add_sub_cancel_left]
  exact ⟨rfl, rfl, h.later wait⟩

/-- Devices that differ in the times of their deliveries alone bring the same chunks, as late after
the call. -/
theorem receive_alike {now now' : Nat} {s s' : ScriptedLink} (h : Alike now s now' s')
    (wait : Nat) :
    Outcome.Agrees Alike now now' (receive now (now + wait) s) (receive now' (now' + wait) s') := by
  have hsilent := silence_alike h wait
  obtain ⟨queue', rfl, hqueue⟩ := h
  unfold receive
  dsimp only
  by_cases hopen : s.connected
  · rw [if_neg (not_not_intro hopen), if_neg (not_not_intro hopen)]
    cases hs : s.queue with
    | nil =>
      rw [hs] at hqueue
      have hnone : queue' = [] := List.map_eq_nil_iff.mp hqueue
      rw [hnone] at hsilent ⊢
      exact hsilent
    | cons event rest =>
      rw [hs] at hqueue
      obtain ⟨event', rest', rfl, hevent, hrest⟩ := List.map_eq_cons_iff.mp hqueue
      obtain ⟨ready, delivery⟩ := event
      obtain ⟨ready', delivery'⟩ := event'
      obtain ⟨hready, rfl⟩ := Prod.mk.inj hevent
      dsimp only at hready ⊢
      by_cases hlate : now + wait < ready
      · have hlate' : now' + wait < ready' := by omega
        rw [if_pos hlate, if_pos hlate']
        exact hsilent
      · have hlate' : ¬ now' + wait < ready' := by omega
        rw [if_neg hlate, if_neg hlate']
        refine ⟨rfl, hready, rest', rfl, ?_⟩
        dsimp only
        rw [ahead_later, ahead_later]
        exact congrArg _ hrest
  · rw [if_pos hopen, if_pos hopen]
    exact ⟨rfl, rfl, queue', rfl, hqueue⟩

/-- No operation on a link can tell when it takes place. -/
theorem bisimulation_alike : Link.Bisimulation Alike where
  name_eq := by
    rintro now s now' s' ⟨queue, rfl, -⟩
    rfl
  open_eq := by
    rintro now s now' s' ⟨queue, rfl, -⟩
    rfl
  backlog_eq := by
    rintro now s now' s' ⟨queue, rfl, hqueue⟩
    have hlength := congrArg List.length hqueue
    rw [length_ahead, length_ahead] at hlength
    exact hlength
  connect := by
    rintro now s now' s' ⟨queue, rfl, hqueue⟩
    exact ⟨rfl, rfl, queue, rfl, hqueue⟩
  disconnect := by
    rintro now s now' s' ⟨queue, rfl, hqueue⟩
    exact ⟨rfl, rfl, queue, rfl, hqueue⟩
  send h data := send_alike h
  receive h wait := receive_alike h wait

/-- A simulated device follows its script from the time at which it is made. -/
theorem made_fixed (s : ScriptedLink) : Link.Fixed (Scanner.made s) := by
  refine ⟨Alike, bisimulation_alike, fun now now' => ⟨schedule now' s.queue, rfl, ?_⟩⟩
  change ahead now' (schedule now' s.queue) = ahead now (schedule now s.queue)
  rw [ahead_schedule, ahead_schedule]

end ScriptedLink

/-- Two benches whose links `R` relates, whose drivers `S` relates, and whose channels hold the
same; the clock of one is at `start` when that of the other is at `start'`. -/
structure Bench.Paired (R : Nat → σ → Nat → σ → Prop) (start start' : Nat) (S : δ → δ → Prop)
    (b b' : Bench σ δ) : Prop where
  related : R b.world.clock b.channel.link b'.world.clock b'.channel.link
  clock_eq : b'.world.clock + start = b.world.clock + start'
  buffer_eq : b'.channel.buffer = b.channel.buffer
  timeout_eq : b'.channel.timeout = b.channel.timeout
  last_eq : b'.channel.last = b.channel.last
  driver : S b.driver b'.driver

variable {R : Nat → σ → Nat → σ → Prop} {start start' : Nat} {S : δ → δ → Prop}

namespace Bench

theorem Paired.of_driver {T : ι → ι → Prop} {b b' : Bench σ δ}
    (h : Paired R start start' S b b') {d d' : ι} (hd : T d d') :
    Paired R start start' T ⟨b.world, b.channel, d⟩ ⟨b'.world, b'.channel, d'⟩ :=
  ⟨h.related, h.clock_eq, h.buffer_eq, h.timeout_eq, h.last_eq, hd⟩

theorem Paired.of_held {b b' : Bench σ δ} (h : Paired R start start' S b b')
    {buffer buffer' : FrameBuffer} (hbuffer : buffer' = buffer) {last last' : Exchange}
    (hlast : last' = last) :
    Paired R start start' S { b with channel := { b.channel with buffer, last } }
      { b' with channel := { b'.channel with buffer := buffer', last := last' } } :=
  ⟨h.related, h.clock_eq, hbuffer, h.timeout_eq, hlast, h.driver⟩

theorem Paired.of_eq {b b' : Bench σ δ} (h : Paired R start start' Eq b b') (hS : ∀ d, S d d) :
    Paired R start start' S b b' := by
  have hdriver := hS b.driver
  rw [congrArg (S b.driver) h.driver] at hdriver
  exact ⟨h.related, h.clock_eq, h.buffer_eq, h.timeout_eq, h.last_eq, hdriver⟩

end Bench

/-- A relation of benches that sees whether `S` relates their drivers, and nothing else of them. -/
structure Act.Through (S : δ → δ → Prop) (Q : Bench σ δ → Bench σ δ → Prop) : Prop where
  driver : ∀ {b b'}, Q b b' → S b.driver b'.driver
  of_driver : ∀ {b b'}, Q b b' → ∀ {d d'}, S d d' →
    Q { b with driver := d } { b' with driver := d' }

theorem Bench.through_paired : Act.Through S (Paired R start start' S) where
  driver h := h.driver
  of_driver h _ _ hd := h.of_driver hd

namespace Act.Through

variable {Q : Bench σ δ → Bench σ δ → Prop} (hQ : Act.Through S Q)
include hQ

theorem onDriver {f g : δ → δ} (h : ∀ d d', S d d' → S (f d) (g d')) :
    Lockstep Q Q (onDriver f : Act σ δ Unit) (onDriver g) :=
  Lockstep.change fun _ _ hb => hQ.of_driver hb (h _ _ (hQ.driver hb))

theorem ofCoding {step step' : Coding δ α} (h : Lockstep S S step step') :
    Lockstep Q Q (ofCoding step : Act σ δ α) (ofCoding step') := by
  intro b b' hb
  have hstep := h _ _ (hQ.driver hb)
  unfold Act.ofCoding
  generalize step b.driver = out, step' b'.driver = out' at hstep
  cases hstep with
  | ok a hd => exact .ok a (hQ.of_driver hb hd)
  | error e hd => exact .error (ReaderError.frame e) (hQ.of_driver hb hd)

end Act.Through

namespace Bench

theorem ofLink_paired {op op' : Nat → σ → Outcome σ α} {b b' : Bench σ δ}
    (h : Paired R start start' S b b')
    (hop : Outcome.Agrees R b.world.clock b'.world.clock (op b.world.clock b.channel.link)
      (op' b'.world.clock b'.channel.link)) :
    Matched (Paired R start start' S) (ofLink op b) (ofLink op' b') := by
  obtain ⟨hresult, helapsed, hrelated⟩ := hop
  have hclock := h.clock_eq
  have hlinked : Paired R start start' S (linked op b) (linked op' b') := by
    refine ⟨?_, ?_, h.buffer_eq, h.timeout_eq, h.last_eq, h.driver⟩
    · simp only [linked, World.pass, helapsed]
      exact hrelated
    · simp only [linked, World.pass, helapsed]
      omega
  cases hout : (op b.world.clock b.channel.link).result with
  | ok a =>
    rw [ofLink_ok hout, ofLink_ok (hresult.trans hout)]
    exact .ok a hlinked
  | error cause =>
    rw [ofLink_error hout, ofLink_error (hresult.trans hout)]
    exact .error (ReaderError.link cause) hlinked

theorem note_paired (e e' : Event) : Lockstep (Paired R start start' S) (Paired R start start' S)
    (onWorld (World.note e) : Act σ δ Unit) (onWorld (World.note e')) :=
  Lockstep.change fun _ _ h =>
    ⟨h.related, h.clock_eq, h.buffer_eq, h.timeout_eq, h.last_eq, h.driver⟩

/-- A driver that frames a command as the other does is then in the same state. -/
theorem encode_paired [Codec δ] {command : Bytes}
    (hframed : ∀ d d', S d d' → Codec.encode command d' = Codec.encode command d) :
    Lockstep (Paired R start start' S) (Paired R start start' Eq)
      (ofCoding (Codec.encode command) : Act σ δ Bytes) (ofCoding (Codec.encode command)) := by
  intro b b' h
  unfold ofCoding
  rw [hframed _ _ h.driver]
  cases (Codec.encode command b.driver : EStateM.Result FrameError δ Bytes) with
  | ok raw d => exact .ok raw (h.of_driver rfl)
  | error e d => exact .error (ReaderError.frame e) (h.of_driver rfl)

theorem decode_paired [Codec δ] (frame : Bytes) :
    Lockstep (Paired R start start' Eq) (Paired R start start' Eq)
      (ofCoding (Codec.decode frame) : Act σ δ Answer) (ofCoding (Codec.decode frame)) :=
  through_paired.ofCoding (Lockstep.same _)

theorem onPart_paired {T : ι → ι → Prop} {wrap : ι → δ}
    (hwrap : ∀ {part part'}, T part part' → S (wrap part) (wrap part')) {act : Act σ ι α}
    (hact : Lockstep (Paired R start start' T) (Paired R start start' T) act act)
    {b b' : Bench σ δ} (h : Paired R start start' S b b') {part part' : ι} (hpart : T part part') :
    Matched (Paired R start start' S) (onPart wrap part act b) (onPart wrap part' act b') := by
  have hin := hact _ _ (h.of_driver hpart)
  unfold onPart
  generalize act ⟨b.world, b.channel, part⟩ = out, act ⟨b'.world, b'.channel, part'⟩ = out' at hin
  cases hin with
  | ok a h => exact .ok a (h.of_driver (hwrap h.driver))
  | error e h => exact .error e (h.of_driver (hwrap h.driver))

end Bench

open Bench

namespace Channel

variable [Link σ] (hR : Link.Bisimulation R)
include hR

theorem openLink_paired : Lockstep (Paired R start start' S) (Paired R start start' S)
    (openLink : Act σ δ Unit) openLink := by
  unfold openLink
  refine Lockstep.bind (Lockstep.change fun b b' h => ?_) fun _ => ?_
  · exact h.of_held (congrArg FrameBuffer.clear h.buffer_eq) rfl
  intro b b' h
  rw [get_bind_run, get_bind_run]
  refine Lockstep.bind (note_paired _ _) (fun _ => ?_) b b' h
  intro b b' h
  exact ofLink_paired h (hR.connect h.related)

theorem close_paired : Lockstep (Paired R start start' S) (Paired R start start' S)
    (close : Act σ δ Unit) close := by
  unfold close
  refine Lockstep.bind (Lockstep.change fun b b' h => ?_) fun _ => ?_
  · exact h.of_held (congrArg FrameBuffer.clear h.buffer_eq) h.last_eq
  intro b b' h
  have hopen : b'.channel.isConnected = b.channel.isConnected := hR.open_eq h.related
  rw [get_bind_run, get_bind_run, hopen]
  by_cases hconnected : b.channel.isConnected
  · rw [if_pos hconnected, if_pos hconnected]
    refine Lockstep.bind (note_paired _ _) (fun _ => ?_) b b' h
    intro b b' h
    exact ofLink_paired h (hR.disconnect h.related)
  · rw [if_neg hconnected, if_neg hconnected]
    exact Lockstep.pure _ b b' h

theorem write_paired (data : Bytes) : Lockstep (Paired R start start' S)
    (Paired R start start' S) (write data : Act σ δ Unit) (write data) := by
  have hsend : Lockstep (Paired R start start' S) (Paired R start start' S)
      (ofLink fun now => Link.send now data : Act σ δ Unit)
      (ofLink fun now => Link.send now data) := by
    intro b b' h
    exact ofLink_paired h (hR.send h.related data)
  intro b b' h
  have hopen : b'.channel.isConnected = b.channel.isConnected := hR.open_eq h.related
  unfold write
  rw [get_bind_run, get_bind_run, hopen]
  by_cases hconnected : b.channel.isConnected
  · rw [if_pos hconnected, if_pos hconnected]
    exact Lockstep.bind (note_paired _ _) (fun _ => hsend) b b' h
  · rw [if_neg hconnected, if_neg hconnected]
    exact hsend b b' h

theorem transmit_paired [Codec δ] {command : Bytes}
    (hframed : ∀ d d', S d d' → Codec.encode command d' = Codec.encode command d) :
    Lockstep (Paired R start start' S) (Paired R start start' Eq)
      (transmit command : Act σ δ Unit) (transmit command) := by
  unfold transmit
  refine Lockstep.bind (encode_paired hframed) fun raw => ?_
  refine Lockstep.bind (write_paired hR raw) fun _ => ?_
  exact Lockstep.change fun b b' h => h.of_held h.buffer_eq rfl

omit [Link σ] hR in
theorem takeFrame_paired (family : Family) : Lockstep (Paired R start start' S)
    (Paired R start start' S) (takeFrame family : Act σ δ (Option Bytes)) (takeFrame family) := by
  intro b b' h
  unfold takeFrame
  rw [h.buffer_eq]
  exact .ok _ (h.of_held rfl h.last_eq)

/-- Deadlines that are as far away on either clock are met or missed together. -/
theorem collect_paired (family : Family) {deadline deadline' : Nat}
    (hdeadline : deadline' + start = deadline + start') (chunks : Nat) :
    Lockstep (Paired R start start' S) (Paired R start start' S)
      (collect family deadline chunks : Act σ δ (Option Bytes))
      (collect family deadline' chunks) := by
  induction chunks with
  | zero => exact takeFrame_paired family
  | succ chunks ih =>
    unfold collect
    refine Lockstep.bind (takeFrame_paired family) fun frame => ?_
    cases frame with
    | some frame => exact Lockstep.pure (some frame)
    | none =>
      intro b b' h
      have hclock := h.clock_eq
      have hnow : Act.now b = .ok b.world.clock b := rfl
      have hnow' : Act.now b' = .ok b'.world.clock b' := rfl
      dsimp only
      rw [bind_ok hnow, bind_ok hnow']
      by_cases hlate : deadline ≤ b.world.clock
      · have hlate' : deadline' ≤ b'.world.clock := by omega
        rw [if_pos hlate, if_pos hlate']
        exact Lockstep.pure none b b' h
      · have hlate' : ¬ deadline' ≤ b'.world.clock := by omega
        -- The clocks differ as the deadlines do, so the time left is the same.
        obtain ⟨wait, hwait⟩ := Nat.exists_eq_add_of_le (Nat.le_of_not_le hlate)
        have hwait' : deadline' = b'.world.clock + wait := by omega
        have hreceive := hR.receive h.related wait
        rw [← hwait, ← hwait'] at hreceive
        rw [if_neg hlate, if_neg hlate']
        refine (ofLink_paired h hreceive).bind fun chunk => ?_
        by_cases hsilent : chunk.isEmpty
        · rw [if_pos hsilent, if_pos hsilent]
          exact Lockstep.pure none
        · rw [if_neg hsilent, if_neg hsilent]
          refine Lockstep.bind (Lockstep.change fun b b' h => ?_) fun _ => ih
          exact h.of_held (congrArg (fun buffer => buffer.extend chunk) h.buffer_eq) h.last_eq

theorem receiveFrame_paired (family : Family) {deadline deadline' : Nat}
    (hdeadline : deadline' + start = deadline + start') :
    Lockstep (Paired R start start' S) (Paired R start start' S)
      (receiveFrame family deadline : Act σ δ Bytes) (receiveFrame family deadline') := by
  intro b b' h
  have hclock := h.clock_eq
  have hnow : Act.now b = .ok b.world.clock b := rfl
  have hnow' : Act.now b' = .ok b'.world.clock b' := rfl
  have hbacklog := hR.backlog_eq h.related
  have hwait : deadline' - b'.world.clock = deadline - b.world.clock := by omega
  unfold receiveFrame
  rw [bind_ok hnow, bind_ok hnow', get_bind_run, get_bind_run, hbacklog, hwait]
  refine (collect_paired hR family hdeadline _ b b' h).bind fun frame => ?_
  cases frame with
  | some frame => exact Lockstep.pure frame
  | none =>
    intro b b' h
    dsimp only
    rw [get_bind_run, get_bind_run, h.buffer_eq]
    split
    · exact .error _ h
    · exact .error _ h

variable [Codec δ] {command : Bytes}

/-- An exchange runs in lockstep if the command is framed alike. -/
theorem send_paired (hS : ∀ d, S d d)
    (hframed : ∀ d d', S d d' → Codec.encode command d' = Codec.encode command d) :
    Lockstep (Paired R start start' S) (Paired R start start' S)
      (Channel.send command : Act σ δ Answer) (Channel.send command) := by
  intro b b' h
  have hopen : b'.channel.isConnected = b.channel.isConnected := hR.open_eq h.related
  unfold Channel.send sendWithin
  rw [get_bind_run, get_bind_run, get_bind_run, get_bind_run, hopen, h.timeout_eq]
  by_cases hconnected : b.channel.isConnected
  · rw [if_neg (not_not_intro hconnected)]
    have hcleared : Paired R start start' S (cleared b) (cleared b') :=
      h.of_held (congrArg FrameBuffer.clear h.buffer_eq) h.last_eq
    apply Matched.mono (P := Paired R start start' Eq) fun s t hst => hst.of_eq hS
    refine (transmit_paired hR hframed _ _ hcleared).bind fun _ => ?_
    intro s t hst
    have hnow : Act.now s = .ok s.world.clock s := rfl
    have hnow' : Act.now t = .ok t.world.clock t := rfl
    have hdeadline : t.world.clock + b.channel.timeout + start =
        s.world.clock + b.channel.timeout + start' := by
      have hclock := hst.clock_eq
      omega
    rw [get_bind_run, get_bind_run, bind_ok hnow, bind_ok hnow', ← hst.driver]
    refine (receiveFrame_paired hR _ hdeadline s t hst).bind fun frame => ?_
    refine Lockstep.bind (Lockstep.change fun b b' h => ?_) fun _ => decode_paired frame
    have hlast := congrArg (fun last : Exchange => { last with answer := frame }) h.last_eq
    exact h.of_held h.buffer_eq hlast
  · rw [if_pos hconnected]
    exact .error _ h

/-- Looking for a reader with a ping is in step when neither the ping nor what is accepted as its
answer depends on what the drivers differ in. -/
theorem ping_paired (ping : δ → Bytes) (accepts : δ → Answer → Bool) (hS : ∀ d, S d d)
    (hping : ∀ d d', S d d' → ping d' = ping d)
    (hframed : ∀ b d d', S d d' →
      Codec.encode (ping b) d' = (Codec.encode (ping b) d : EStateM.Result FrameError δ Bytes))
    (haccepts : ∀ d d', S d d' → accepts d' = accepts d) :
    Lockstep (Paired R start start' S) (Paired R start start' S)
      (do
        let answer ← Channel.send (ping (← get).driver)
        return accepts (← get).driver answer : Act σ δ Bool)
      (do
        let answer ← Channel.send (ping (← get).driver)
        return accepts (← get).driver answer) := by
  intro b b' h
  rw [get_bind_run, get_bind_run, hping _ _ h.driver]
  refine (send_paired hR hS (hframed b.driver) b b' h).bind fun answer => ?_
  intro b b' h
  rw [get_bind_run, get_bind_run, haccepts _ _ h.driver]
  exact .ok _ h

/-- A ping, being framed alike, is answered alike and judged alike. -/
theorem ping_same (ping : δ → Bytes) (accepts : δ → Answer → Bool) :
    Lockstep (Paired R start start' Eq) (Paired R start start' Eq)
      (do
        let answer ← Channel.send (ping (← get).driver)
        return accepts (← get).driver answer : Act σ δ Bool)
      (do
        let answer ← Channel.send (ping (← get).driver)
        return accepts (← get).driver answer) := by
  apply ping_paired hR ping accepts fun _ => rfl
  · rintro d _ rfl
    rfl
  · rintro b d _ rfl
    rfl
  · rintro d _ rfl
    rfl

end Channel

end CardReader
