import CardReader.Proofs.Reader.Connect
import CardReader.Proofs.Reader.Swaps
import CardReader.Proofs.Rounds

namespace CardReader

open Run Act

variable {σ δ α β : Type}

def Event.isLook : Event → Bool
  | .looked .. => true
  | _ => false

/-- The looks for a card so far, the last first. -/
def World.looks (w : World) : List Event := w.journal.filter Event.isLook

section

variable [Link σ]

/-- Time did not run back, the link stayed open if it was, no time was reckoned with and nothing was
noted as a look. -/
structure Bench.Lapsed (b b' : Bench σ δ) : Prop where
  clock_le : b.world.clock ≤ b'.world.clock
  open_eq : b'.channel.isConnected = b.channel.isConnected
  furthest_eq : b'.world.furthest = b.world.furthest
  looks_eq : b'.world.looks = b.world.looks

namespace Bench

theorem closed_lapsed : Closed (Lapsed (σ := σ) (δ := δ)) where
  refl _ := ⟨le_rfl, rfl, rfl, rfl⟩
  trans h h' := ⟨h.clock_le.trans h'.clock_le, h'.open_eq.trans h.open_eq,
    h'.furthest_eq.trans h.furthest_eq, h'.looks_eq.trans h.looks_eq⟩

theorem ofLink_lapsed {op : Nat → σ → Outcome σ α}
    (hop : ∀ now s, Link.isOpen (op now s).link = Link.isOpen s) :
    Keeps Lapsed (ofLink (δ := δ) op) := by
  intro b
  rw [after_ofLink]
  exact ⟨Nat.le_add_right _ _, hop b.world.clock b.channel.link, rfl, rfl⟩

theorem bystander_lapsed (hσ : Link.Faithful σ) : Bystander (Lapsed (σ := σ) (δ := Unit)) where
  toClosed := closed_lapsed
  receive deadline := ofLink_lapsed fun now s => hσ.receive_open now deadline s
  onBuffer _ _ := ⟨le_rfl, rfl, rfl, rfl⟩
  onLast _ _ := ⟨le_rfl, rfl, rfl, rfl⟩
  send data := ofLink_lapsed fun now s => hσ.send_open now data s
  noted _ _ _ := ⟨le_rfl, rfl, rfl, rfl⟩
  later _ _ := ⟨le_max_left _ _, rfl, rfl, rfl⟩

end Bench

/-- A look of the driver takes time and nothing else that a wait counts on: the link stays open,
and so long as before is the pause to the next look. -/
structure Driver.Punctual (σ δ : Type) [Link σ] [Driver δ] : Prop where
  lapsed : Keeps Bench.Lapsed (Driver.chipInAir : Act σ δ (Option Chip))
  interval : KeepsDriver (fun d d' => Driver.pollInterval d' = Driver.pollInterval d)
    (Driver.chipInAir : Act σ δ (Option Chip))

namespace AnyDevice

/-- The pause between looks is that of the family. -/
theorem chipInAir_interval :
    KeepsDriver (fun d d' => Driver.pollInterval d' = Driver.pollInterval d)
      (Driver.chipInAir : Act σ AnyDevice (Option Chip)) := by
  intro b
  change Driver.pollInterval (after (chipInAir b)).driver = _
  unfold chipInAir
  have hpart {ι : Type} {wrap : ι → AnyDevice} {act : Act σ ι (Option Chip)} {part : ι}
      (h : ∀ i, Driver.pollInterval (wrap i) = Driver.pollInterval (wrap part)) :
      Driver.pollInterval (after (onPart wrap part act b)).driver =
        Driver.pollInterval (wrap part) := by
    unfold onPart
    cases act ⟨b.world, b.channel, part⟩ with
    | ok a b' => exact h _
    | error e b' => exact h _
  cases hd : b.driver <;> exact hpart fun _ => rfl

theorem punctual (hσ : Link.Faithful σ) : Driver.Punctual σ AnyDevice where
  lapsed b := by
    obtain ⟨hclock, hopen, hfurthest, hlooks⟩ := chipInAir_aside (Bench.bystander_lapsed hσ) b
    exact ⟨hclock, hopen, hfurthest, hlooks⟩
  interval := chipInAir_interval

end AnyDevice

end

namespace Reader

/-- What is noted of a look. -/
def sighting (s : Station σ δ) : Event := .looked s.world.clock s.reader.state s.world.isQuiet

/-- The station when its scan is over, of a reader that was in `state` before. -/
def exited (shown : Bool) (state : ReaderState) (s : Station σ δ) : Station σ δ :=
  (if shown then s else { s with world := s.world.unhush }).onReader ({ · with state })

theorem after_scanning (shown : Bool) (op : Op σ δ β) (s : Station σ δ) :
    after (scanning shown op s) = exited shown s.reader.state (after (op (entered shown s))) := by
  unfold scanning entered
  dsimp only
  cases op _ with
  | ok b t => rfl
  | error e t => rfl

theorem exited_clock (shown : Bool) (state : ReaderState) (s : Station σ δ) :
    (exited shown state s).world.clock = s.world.clock := by
  cases shown <;> rfl

theorem exited_furthest (shown : Bool) (state : ReaderState) (s : Station σ δ) :
    (exited shown state s).world.furthest = s.world.furthest := by
  cases shown <;> rfl

theorem exited_looks (shown : Bool) (state : ReaderState) (s : Station σ δ) :
    (exited shown state s).world.looks = s.world.looks := by
  cases shown <;> rfl

variable [Link σ] [Driver δ]

/-- Where there is a link, a look is noted and then the driver's. -/
theorem look_connected {s : Station σ δ} (hc : s.reader.isConnected) :
    ∃ c, s.reader.channel = some c ∧ c.isConnected ∧
      look s = atChannel c Driver.chipInAir { s with world := s.world.note (sighting s) } := by
  have hstate : s.reader.state != .disconnected := (Bool.and_eq_true_iff.mp hc).1
  cases hchannel : s.reader.channel with
  | none =>
    unfold isConnected at hc
    rw [hchannel, Option.any_none, Bool.and_false] at hc
    contradiction
  | some c =>
    have hopen : c.isConnected := by
      unfold isConnected at hc
      rw [hchannel, Option.any_some, hstate, Bool.true_and] at hc
      exact hc
    refine ⟨c, rfl, hopen, ?_⟩
    unfold look
    rw [get_bind_run, use, hchannel]
    dsimp only
    rw [if_pos hc]
    rfl

/-- A look at an open link takes its time, is noted, and the next look can follow it. -/
theorem look_lapsed (hδ : Driver.Punctual σ δ) {s : Station σ δ} (hc : s.reader.isConnected) :
    s.world.clock ≤ (after (look s)).world.clock ∧ (after (look s)).reader.isConnected ∧
      Driver.pollInterval (after (look s)).reader.driver = Driver.pollInterval s.reader.driver ∧
      (after (look s)).world.furthest = s.world.furthest ∧
      (after (look s)).world.looks = sighting s :: s.world.looks := by
  obtain ⟨c, hchannel, hopen, hlook⟩ := look_connected hc
  have hlapsed := hδ.lapsed ⟨s.world.note (sighting s), c, s.reader.driver⟩
  have hinterval := hδ.interval ⟨s.world.note (sighting s), c, s.reader.driver⟩
  rw [hlook, after_atChannel]
  refine ⟨hlapsed.clock_le, ?_, hinterval, hlapsed.furthest_eq, hlapsed.looks_eq⟩
  exact Bool.and_eq_true_iff.mpr ⟨(Bool.and_eq_true_iff.mp hc).1, hlapsed.open_eq.trans hopen⟩

/-- One round of a poll with an end: a look and, if it settles nothing, a pause. After the end it
settles on nothing. -/
def watch (judge : Option Chip → Option β) (deadline : Option Nat) :
    Op σ δ (Option (Option β)) := do
  match judge (← look) with
  | some settled => return some (some settled)
  | none => if ← rest deadline then return none else return some none

/-- Looks with pauses between them are the rounds of a loop. -/
theorem poll_eq_loop (judge : Option Chip → Option β) (deadline : Option Nat) (looks : Nat) :
    (poll judge deadline looks : Op σ δ (Option β)) =
      loop (watch judge deadline) (pure none) looks := by
  induction looks with
  | zero => rfl
  | succ looks ih =>
    unfold poll loop watch
    rw [ih, bind_assoc]
    congr 1
    funext seen
    cases judge seen with
    | some settled => rfl
    | none =>
      dsimp only
      rw [bind_assoc]
      congr 1
      funext again
      cases again <;> rfl

/-- What becomes of a round: the look fails, or it settles something, or time is up, or there is
another round after the pause. -/
theorem watch_cases (judge : Option Chip → Option β) (deadline : Nat) (s : Station σ δ) :
    (∃ e t, look s = .error e t ∧ watch judge (some deadline) s = .error e t) ∨
    ∃ seen t, look s = .ok seen t ∧
      ((∃ settled, judge seen = some settled ∧
        watch judge (some deadline) s = .ok (some (some settled)) t) ∨
      judge seen = none ∧ deadline ≤ t.world.clock ∧
        watch judge (some deadline) s = .ok (some none) (t.reckon (nextLook t)) ∨
      judge seen = none ∧ t.world.clock < deadline ∧
        watch judge (some deadline) s = .ok none (rested deadline t)) := by
  unfold watch
  cases hlook : (look s : EStateM.Result ReaderError (Station σ δ) (Option Chip)) with
  | error e t => exact .inl ⟨e, t, rfl, bind_error hlook _⟩
  | ok seen t =>
    refine .inr ⟨seen, t, rfl, ?_⟩
    rw [bind_ok hlook]
    cases judge seen with
    | some settled => exact .inl ⟨settled, rfl, rfl⟩
    | none =>
      dsimp only
      by_cases hlate : deadline ≤ t.world.clock
      · rw [bind_ok (rest_late hlate)]
        exact .inr (.inl ⟨rfl, hlate, rfl⟩)
      · rw [bind_ok (rest_early (by omega))]
        exact .inr (.inr ⟨rfl, by omega, rfl⟩)

theorem watch_again {judge : Option Chip → Option β} {deadline : Nat} {s u : Station σ δ}
    (h : watch judge (some deadline) s = .ok none u) :
    ∃ seen t, look s = .ok seen t ∧ judge seen = none ∧ t.world.clock < deadline ∧
      u = rested deadline t := by
  obtain ⟨e, t, -, hwatch⟩ | ⟨seen, t, hlook, ⟨settled, -, hwatch⟩ | ⟨-, -, hwatch⟩ |
    ⟨hdull, hearly, hwatch⟩⟩ := watch_cases judge deadline s
  · rw [hwatch] at h
    contradiction
  · rw [hwatch] at h
    injection h with hnone _
    contradiction
  · rw [hwatch] at h
    injection h with hnone _
    contradiction
  · rw [hwatch] at h
    injection h with _ hu
    exact ⟨seen, t, hlook, hdull, hearly, hu.symm⟩

/-- A poll that ends with a round ends with its look. -/
theorem watch_ends {judge : Option Chip → Option β} {deadline : Nat} {s : Station σ δ}
    {out : EStateM.Result ReaderError (Station σ δ) (Option β)}
    (h : EndsAs (watch judge (some deadline) s) out) :
    outcome out = (outcome (look s)).map judge ∧
      (after out).world.clock = (after (look s)).world.clock ∧
      ∀ seen, outcome (look s) = .ok seen → judge seen = none →
        deadline ≤ (after (look s)).world.clock := by
  obtain ⟨e, t, hlook, hwatch⟩ | ⟨seen, t, hlook, hround⟩ := watch_cases judge deadline s
  · rw [hwatch] at h
    rw [hlook, h.failed]
    exact ⟨rfl, rfl, nofun⟩
  · rw [hlook]
    obtain ⟨settled, hjudge, hwatch⟩ | ⟨hjudge, hlate, hwatch⟩ | ⟨-, -, hwatch⟩ := hround
    all_goals rw [hwatch] at h
    · rw [h.settled, ← hjudge]
      refine ⟨rfl, rfl, fun other hother hnone => ?_⟩
      rw [← Except.ok.inj hother, hjudge] at hnone
      contradiction
    · rw [h.settled, ← hjudge]
      exact ⟨rfl, rfl, fun _ _ _ => hlate⟩
    · exact absurd h EndsAs.not_again

/-- What holds whenever a poll with an end looks. -/
structure Waiting (deadline interval : Nat) (s : Station σ δ) : Prop where
  connected : s.reader.isConnected
  interval_eq : Driver.pollInterval s.reader.driver = interval
  clock_le : s.world.clock ≤ deadline

/-- Intervals that are left until the end, a begun one included. -/
def remaining (deadline interval : Nat) (s : Station σ δ) : Nat :=
  (deadline - s.world.clock + interval - 1) / interval

omit [Link σ] [Driver δ] in
/-- A pause takes up an interval, or what is left until the end. -/
theorem intervals_lt {start now deadline interval : Nat} (hi : 0 < interval) (hstart : start ≤ now)
    (hnow : now < deadline) :
    (deadline - min (now + interval) deadline + interval - 1) / interval <
      (deadline - start + interval - 1) / interval := by
  by_cases hcut : deadline ≤ now + interval
  · rw [min_eq_right hcut, Nat.sub_self, Nat.zero_add, Nat.div_eq_of_lt (by omega)]
    exact Nat.div_pos (by omega) hi
  · have hstep : (deadline - min (now + interval) deadline + interval - 1) / interval + 1 =
        (deadline - min (now + interval) deadline + interval - 1 + interval) / interval :=
      (Nat.add_div_right _ hi).symm
    rw [Nat.lt_iff_add_one_le, hstep]
    exact Nat.div_le_div_right (by omega)

/-- Each round but the last uses up an interval of the time that is left, so rounds run out. -/
theorem watch_falls (hδ : Driver.Punctual σ δ) (judge : Option Chip → Option β) (deadline : Nat)
    {interval : Nat} (hi : 0 < interval) :
    Falls (watch judge (some deadline) : Op σ δ (Option (Option β))) (Waiting deadline interval)
      (remaining deadline interval) := by
  have hagain : ∀ {s u : Station σ δ}, Waiting deadline interval s →
      watch judge (some deadline) s = .ok none u →
      Waiting deadline interval u ∧
        remaining deadline interval u < remaining deadline interval s := by
    intro s u hs hround
    obtain ⟨seen, t, hlook, -, hearly, rfl⟩ := watch_again hround
    obtain ⟨hclock, hconnected, hinterval, -, -⟩ := look_lapsed hδ hs.connected
    rw [hlook] at hclock hconnected hinterval
    have hsame : Driver.pollInterval t.reader.driver = interval := hinterval.trans hs.interval_eq
    have hpassed : (rested deadline t).world.clock = min (t.world.clock + interval) deadline := by
      change max t.world.clock (min (t.world.clock + Driver.pollInterval t.reader.driver) deadline) =
        _
      rw [hsame]
      omega
    refine ⟨⟨hconnected, hsame, ?_⟩, ?_⟩
    · rw [hpassed]
      exact min_le_right _ _
    · unfold remaining
      rw [hpassed]
      exact intervals_lt hi hclock hearly
  exact ⟨fun hs h => (hagain hs h).1, fun hs h => (hagain hs h).2⟩

/-- A round is noted as one look. -/
theorem watch_looks (hδ : Driver.Punctual σ δ) (judge : Option Chip → Option β) (deadline : Nat)
    {s : Station σ δ} (hc : s.reader.isConnected) :
    (after (watch judge (some deadline) s)).world.looks = sighting s :: s.world.looks := by
  obtain ⟨-, -, -, -, hlooks⟩ := look_lapsed hδ hc
  obtain ⟨e, t, hlook, hwatch⟩ | ⟨seen, t, hlook, ⟨settled, -, hwatch⟩ | ⟨-, -, hwatch⟩ |
    ⟨-, -, hwatch⟩⟩ := watch_cases judge deadline s
  all_goals
    rw [hlook] at hlooks
    rw [hwatch]
    exact hlooks

/-- A round reckons with the time of a next look, unless its look fails or settles something. -/
theorem watch_furthest (hδ : Driver.Punctual σ δ) (judge : Option Chip → Option β)
    (deadline limit : Nat) {s : Station σ δ} (hc : s.reader.isConnected) :
    (after (watch judge (some deadline) s)).world.furthest ≤ limit ↔
      s.world.furthest ≤ limit ∧ ∀ seen, outcome (look s) = .ok seen → judge seen = none →
        nextLook (after (look s)) ≤ limit := by
  obtain ⟨-, -, -, hfurthest, -⟩ := look_lapsed hδ hc
  have hreckoned : ∀ {seen : Option Chip} {t : Station σ δ},
      t.world.furthest = s.world.furthest → judge seen = none →
      (max t.world.furthest (nextLook t) ≤ limit ↔ s.world.furthest ≤ limit ∧
        ∀ other, Except.ok (ε := ReaderError) seen = .ok other → judge other = none →
          nextLook t ≤ limit) := by
    intro seen t ht hjudge
    rw [max_le_iff, ht]
    exact and_congr_right fun _ => ⟨fun h _ _ _ => h, fun h => h seen rfl hjudge⟩
  obtain ⟨e, t, hlook, hwatch⟩ | ⟨seen, t, hlook, ⟨settled, hjudge, hwatch⟩ |
    ⟨hjudge, -, hwatch⟩ | ⟨hjudge, -, hwatch⟩⟩ := watch_cases judge deadline s
  all_goals
    rw [hlook] at hfurthest ⊢
    rw [hwatch]
  · rw [← hfurthest]
    exact (and_iff_left nofun).symm
  · rw [← hfurthest]
    refine (and_iff_left fun other hother hnone => ?_).symm
    rw [← Except.ok.inj hother, hjudge] at hnone
    contradiction
  · exact hreckoned hfurthest hjudge
  · exact hreckoned hfurthest hjudge

/-- The stations at the looks of a poll for a time. -/
def looksFor (judge : Option Chip → Option β) (wait patience : Nat) (s : Station σ δ) :
    List (Station σ δ) :=
  rounds (watch judge (some (s.world.clock + wait)))
    (looksWithin wait (Driver.pollInterval s.reader.driver) patience)
    (s.reckon (s.world.clock + wait))

/-- The looks of a wait that found a reader at `s` and left `w` behind. Until the last one they see
only what is `dull`, and the wait is over when the last one is. -/
structure Timely (dull : Option Chip → Prop) (wait : Nat) (s : Station σ δ) (w : World)
    (looks : List (Station σ δ)) (last : Station σ δ) : Prop where
  last_eq : looks.getLast? = some last
  length_pos : 1 ≤ looks.length
  length_le : looks.length ≤ (wait + Driver.pollInterval s.reader.driver - 1) /
    Driver.pollInterval s.reader.driver + 1
  noted : w.looks = (looks.map sighting).reverse ++ s.world.looks
  connected : ∀ t ∈ looks, t.reader.isConnected
  begins : ∀ t ∈ looks, t.world.clock ≤ s.world.clock + wait
  dull_before : ∀ t ∈ looks.dropLast, ∃ seen, outcome (look t) = .ok seen ∧ dull seen
  ends : w.clock = (after (look last)).world.clock
  late : ∀ seen, outcome (look last) = .ok seen → dull seen → s.world.clock + wait ≤ w.clock

/-- A clock that ends at `limit` tells each time that a wait reckons with: when it is over, and when
the next look would be after one that saw something `dull`. -/
structure Tellable (dull : Option Chip → Prop) (wait limit : Nat) (s : Station σ δ)
    (looks : List (Station σ δ)) : Prop where
  deadline_le : s.world.clock + wait ≤ limit
  nextLook_le : ∀ t ∈ looks, ∀ seen, outcome (look t) = .ok seen → dull seen →
    nextLook (after (look t)) ≤ limit

section

variable (hδ : Driver.Punctual σ δ) (judge : Option Chip → Option β) {wait : Nat} (patience : Nat)
  {s : Station σ δ} (hc : s.reader.isConnected) (hi : 0 < Driver.pollInterval s.reader.driver)

/-- A poll for a time reckons with its end first, and then goes round by round. -/
theorem pollFor_eq_loop (hwait : 0 < wait) :
    pollFor judge wait patience s = loop (watch judge (some (s.world.clock + wait))) (pure none)
      (looksWithin wait (Driver.pollInterval s.reader.driver) patience)
      (s.reckon (s.world.clock + wait)) := by
  rw [pollFor_eq, if_neg (Nat.ne_of_gt hwait), poll_eq_loop]

include hc in
theorem waiting_reckon (wait : Nat) :
    Waiting (s.world.clock + wait) (Driver.pollInterval s.reader.driver)
      (s.reckon (s.world.clock + wait)) :=
  ⟨hc, rfl, Nat.le_add_right _ _⟩

include hδ hc hi

/-- A poll for a time is timely, and its last look decides. -/
theorem pollFor_timely (hwait : 0 < wait) :
    ∃ last, Timely (judge · = none) wait s (after (pollFor judge wait patience s)).world
        (looksFor judge wait patience s) last ∧
      outcome (pollFor judge wait patience s) = (outcome (look last)).map judge := by
  have hfalls := watch_falls hδ judge (s.world.clock + wait) hi
  have hs := waiting_reckon hc wait
  have hleft : remaining (s.world.clock + wait) (Driver.pollInterval s.reader.driver)
      (s.reckon (s.world.clock + wait)) =
      (wait + Driver.pollInterval s.reader.driver - 1) / Driver.pollInterval s.reader.driver := by
    change (s.world.clock + wait - s.world.clock + _ - 1) / _ = _
    rw [Nat.add_sub_cancel_left]
  -- The rounds that a poll allows for are never used up.
  have henough : remaining (s.world.clock + wait) (Driver.pollInterval s.reader.driver)
      (s.reckon (s.world.clock + wait)) <
      looksWithin wait (Driver.pollInterval s.reader.driver) patience := by
    rw [hleft, looksWithin, if_neg (Nat.ne_of_gt hi), Nat.lt_succ_iff, ← Nat.add_div_right _ hi]
    exact Nat.div_le_div_right (Nat.sub_le _ _)
  have hholds := hfalls.holds hs (looksWithin wait (Driver.pollInterval s.reader.driver) patience)
  obtain ⟨last, hlast, hends⟩ := hfalls.ends hs (pure none) henough
  obtain ⟨houtcome, hclock, hlate⟩ := watch_ends hends
  rw [pollFor_eq_loop judge patience hwait]
  refine ⟨last, ⟨hlast, ?_, ?_, ?_, ?_, ?_, ?_, hclock, ?_⟩, houtcome⟩
  · exact List.length_pos_of_mem (List.mem_of_getLast? hlast)
  · rw [← hleft]
    exact hfalls.length_le hs _
  · exact hfalls.recorded hs (fun t => t.world.looks)
      (fun t ht => watch_looks hδ judge _ ht.connected) (fun _ => rfl) _
  · exact fun t ht => (hholds t ht).connected
  · exact fun t ht => (hholds t ht).clock_le
  · intro t ht
    obtain ⟨u, hagain⟩ := mem_dropLast_rounds ht
    obtain ⟨seen, v, hlook, hdull, -⟩ := watch_again hagain
    exact ⟨seen, by rw [hlook]; rfl, hdull⟩
  · intro seen hseen hdull
    rw [hclock]
    exact hlate seen hseen hdull

/-- A poll for a time reckons with its end and with the times of its next looks. -/
theorem pollFor_furthest (hwait : 0 < wait) (limit : Nat) :
    (after (pollFor judge wait patience s)).world.furthest ≤ limit ↔
      s.world.furthest ≤ limit ∧
        Tellable (judge · = none) wait limit s (looksFor judge wait patience s) := by
  have hfalls := watch_falls hδ judge (s.world.clock + wait) hi
  have hrounds := hfalls.within_iff (waiting_reckon hc wait) (pure none)
    (fun t => t.world.furthest ≤ limit)
    (fun t ht => watch_furthest hδ judge _ limit ht.connected) (fun _ => Iff.rfl)
    (looksWithin wait (Driver.pollInterval s.reader.driver) patience)
  rw [pollFor_eq_loop judge patience hwait, hrounds]
  change max s.world.furthest (s.world.clock + wait) ≤ limit ∧ _ ↔ _
  rw [max_le_iff, and_assoc]
  exact and_congr_right fun _ => ⟨fun ⟨hend, hnext⟩ => ⟨hend, hnext⟩,
    fun ⟨hend, hnext⟩ => ⟨hend, hnext⟩⟩

end

omit [Driver δ] in
theorem entered_connected (shown : Bool) {s : Station σ δ} (hc : s.reader.isConnected) :
    (entered shown s).reader.isConnected := by
  have hopen : s.reader.channel.any Channel.isConnected := (Bool.and_eq_true_iff.mp hc).2
  cases shown with
  | true => exact hopen
  | false => exact hopen

/-- A scan is timely when its poll is: beginning and end of it take no time. -/
theorem scanning_timely (hδ : Driver.Punctual σ δ) (judge : Option Chip → Option β) {wait : Nat}
    (hwait : 0 < wait) (patience : Nat) (shown : Bool) {s : Station σ δ}
    (hc : s.reader.isConnected) (hi : 0 < Driver.pollInterval s.reader.driver) :
    ∃ last, Timely (judge · = none) wait s
        (after (scanning shown (pollFor judge wait patience) s)).world
        (looksFor judge wait patience (entered shown s)) last ∧
      outcome (scanning shown (pollFor judge wait patience) s) =
        (outcome (look last)).map judge := by
  have hclock : (entered shown s).world.clock = s.world.clock := by cases shown <;> rfl
  have hlooks : (entered shown s).world.looks = s.world.looks := by cases shown <;> rfl
  have hdriver : (entered shown s).reader.driver = s.reader.driver := by cases shown <;> rfl
  obtain ⟨last, htimely, houtcome⟩ := pollFor_timely hδ judge patience
    (entered_connected shown hc) (by rw [hdriver]; exact hi) hwait
  refine ⟨last, ⟨htimely.last_eq, htimely.length_pos, ?_, ?_, htimely.connected, ?_,
    htimely.dull_before, ?_, ?_⟩, (outcome_scanning shown _ s).trans houtcome⟩
  · rw [← hdriver]
    exact htimely.length_le
  · rw [after_scanning, exited_looks, ← hlooks]
    exact htimely.noted
  · rw [← hclock]
    exact htimely.begins
  · rw [after_scanning, exited_clock]
    exact htimely.ends
  · rw [after_scanning, exited_clock, ← hclock]
    exact htimely.late

/-- A scan reckons with the times that its poll reckons with. -/
theorem scanning_furthest (hδ : Driver.Punctual σ δ) (judge : Option Chip → Option β) {wait : Nat}
    (hwait : 0 < wait) (patience : Nat) (shown : Bool) {s : Station σ δ}
    (hc : s.reader.isConnected) (hi : 0 < Driver.pollInterval s.reader.driver) (limit : Nat) :
    (after (scanning shown (pollFor judge wait patience) s)).world.furthest ≤ limit ↔
      s.world.furthest ≤ limit ∧ Tellable (judge · = none) wait limit s
        (looksFor judge wait patience (entered shown s)) := by
  have hclock : (entered shown s).world.clock = s.world.clock := by cases shown <;> rfl
  have hfurthest : (entered shown s).world.furthest = s.world.furthest := by cases shown <;> rfl
  have hdriver : (entered shown s).reader.driver = s.reader.driver := by cases shown <;> rfl
  rw [after_scanning, exited_furthest, pollFor_furthest hδ judge patience
    (entered_connected shown hc) (by rw [hdriver]; exact hi) hwait, hfurthest]
  refine and_congr_right fun _ => ⟨fun h => ⟨?_, h.nextLook_le⟩, fun h => ⟨?_, h.nextLook_le⟩⟩
  · rw [← hclock]
    exact h.deadline_le
  · rw [hclock]
    exact h.deadline_le

/-- What a wait for a card does after its scan, it does to the cards that it remembers. -/
theorem after_waitInsertion (wait patience : Nat) {s : Station σ δ} (hc : s.reader.isConnected)
    (hpending : s.reader.pending = none) :
    let scan := scanning s.reader.settings.seeInsertionLog (pollFor id wait patience) s
    (after (waitInsertion wait patience s)).world = (after scan).world ∧
      (after (waitInsertion wait patience s)).reader.state = (after scan).reader.state := by
  rw [waitInsertion_eq wait patience hc, hpending]
  dsimp only
  cases scanning s.reader.settings.seeInsertionLog (pollFor id wait patience) s with
  | error e t => exact ⟨rfl, rfl⟩
  | ok seen t => cases seen <;> exact ⟨rfl, rfl⟩

theorem after_waitRemoval (wait patience : Nat) {s : Station σ δ} {inserted : Chip}
    (hc : s.reader.isConnected) (hinserted : s.reader.inserted = some inserted) :
    let scan := scanning s.reader.settings.seeRemovalLog
      (pollFor (Removal.judge inserted) wait patience) s
    (after (waitRemoval wait patience s)).world = (after scan).world ∧
      (after (waitRemoval wait patience s)).reader.state = (after scan).reader.state := by
  rw [waitRemoval_eq wait patience hc, hinserted]
  dsimp only
  cases scanning s.reader.settings.seeRemovalLog
      (pollFor (Removal.judge inserted) wait patience) s with
  | error e t => exact ⟨rfl, rfl⟩
  | ok removal t => cases removal <;> exact ⟨rfl, rfl⟩

theorem Removal.judge_eq_none_iff {inserted : Chip} {seen : Option Chip} :
    Removal.judge inserted seen = none ↔ ∃ chip, seen = some chip ∧ chip.same inserted := by
  cases seen with
  | none => simp [judge]
  | some chip => simp [judge]

theorem Removal.judge_isSome (inserted : Chip) (seen : Option Chip) :
    (Removal.judge inserted seen).isSome = !seen.any (·.same inserted) := by
  cases seen with
  | none => rfl
  | some chip =>
    unfold judge
    cases h : chip.same inserted <;> simp [h]

def insertionLooks (wait patience : Nat) (s : Station σ δ) : List (Station σ δ) :=
  looksFor id wait patience (entered s.reader.settings.seeInsertionLog s)

def removalLooks (inserted : Chip) (wait patience : Nat) (s : Station σ δ) :
    List (Station σ δ) :=
  looksFor (Removal.judge inserted) wait patience (entered s.reader.settings.seeRemovalLog s)

/-- A look saw the inserted card again. -/
def StillThere (inserted : Chip) (seen : Option Chip) : Prop :=
  ∃ chip, seen = some chip ∧ chip.same inserted

omit [Link σ] [Driver δ] in
/-- What comes of `op` by a clock with an end is what comes of it by one without, or nothing. -/
theorem byClock_cases {op : Op σ δ β} {s : Station σ δ} {limit : Nat} {told : Prop}
    (h : (after (op s)).world.furthest ≤ limit ↔ told) :
    (told → byClock limit op s = some (op s)) ∧ (¬ told → byClock limit op s = none) := by
  unfold byClock
  cases hrun : op s with
  | ok b t =>
    rw [hrun] at h
    exact ⟨fun ht => if_pos (h.mpr ht), fun ht => if_neg fun hle => ht (h.mp hle)⟩
  | error e t =>
    rw [hrun] at h
    exact ⟨fun ht => if_pos (h.mpr ht), fun ht => if_neg fun hle => ht (h.mp hle)⟩

/-- An operation that leaves the world as a scan does has an answer if the clock tells every time
that the scan reckons with; it is as timely as the scan. -/
theorem byClock_scan (hδ : Driver.Punctual σ δ) (judge : Option Chip → Option β) {wait : Nat}
    (hwait : 0 < wait) (patience : Nat) {shown : Bool} {s : Station σ δ}
    (hc : s.reader.isConnected) (hi : 0 < Driver.pollInterval s.reader.driver) {limit : Nat}
    (hlimit : s.world.furthest ≤ limit) {op : Op σ δ α}
    (hworld : (after (op s)).world =
      (after (scanning shown (pollFor judge wait patience) s)).world) :
    let looks := looksFor judge wait patience (entered shown s)
    ∃ last, (Tellable (judge · = none) wait limit s looks → byClock limit op s = some (op s)) ∧
      (¬ Tellable (judge · = none) wait limit s looks → byClock limit op s = none) ∧
      Timely (judge · = none) wait s (after (op s)).world looks last ∧
      verdict judge (glancesFor judge wait patience (entered shown s)) =
        (outcome (look last)).map judge := by
  have hfurthest := scanning_furthest hδ judge hwait patience shown hc hi limit
  rw [← hworld, and_iff_right hlimit] at hfurthest
  obtain ⟨htold, hstopped⟩ := byClock_cases hfurthest
  obtain ⟨last, htimely, houtcome⟩ := scanning_timely hδ judge hwait patience shown hc hi
  rw [← hworld] at htimely
  rw [outcome_scanning, outcome_pollFor] at houtcome
  exact ⟨last, htold, hstopped, htimely, houtcome⟩

/-- A reader that has told of a card. It now takes 40 ms for each look and sees none. -/
def patient : Station ScriptedLink AnyDevice where
  world := {}
  reader :=
    { Reader.onLink (.promag {})
        { name := "sim0", connected := true, otherwise := .deliver [(40, .chunk [0x02, 0x0D])] }
        {} with
      state := .connected
      inserted := some (Chip.generic [0x0A]) }

/-- A reader with a card in its field. -/
def facing : Station ScriptedLink AnyDevice where
  world := {}
  reader :=
    { Reader.onLink (.promag {})
        { name := "sim0", connected := true,
          otherwise := .deliver [(0, .chunk [0x02, 0x30, 0x41, 0x0D])] }
        {} with
      state := .connected }

end Reader

end CardReader
