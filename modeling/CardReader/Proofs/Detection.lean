import CardReader.Proofs.Reader.Connect
import CardReader.Promag.Device

namespace CardReader

open Run Act Bench

variable {σ δ α : Type}

/-- Openings and closings of links so far, in order. -/
def World.handled (w : World) : List Event := (w.journal.filter Event.isLink).reverse

theorem World.handled_note {e : Event} (h : e.isLink = false) (w : World) :
    (w.note e).handled = w.handled := by
  simp [handled, note, h]

theorem World.handled_link {e : Event} (h : e.isLink = true) (w : World) :
    (w.note e).handled = w.handled ++ [e] := by
  simp [handled, note, h]

variable [Link σ]

/-- No link was opened or closed. -/
structure Bench.Still (b b' : Bench σ δ) : Prop where
  handled_eq : b'.world.handled = b.world.handled
  open_eq : b'.channel.isConnected = b.channel.isConnected

namespace Bench

theorem closed_still : Closed (Still (σ := σ) (δ := δ)) where
  refl _ := ⟨rfl, rfl⟩
  trans h h' := ⟨h'.handled_eq.trans h.handled_eq, h'.open_eq.trans h.open_eq⟩

theorem ofLink_still {op : Nat → σ → Outcome σ α}
    (hop : ∀ now s, Link.isOpen (op now s).link = Link.isOpen s) :
    Keeps Still (ofLink (δ := δ) op) := by
  intro b
  rw [after_ofLink]
  exact ⟨rfl, hop b.world.clock b.channel.link⟩

theorem bystander_still (hσ : Link.Faithful σ) : Bystander (Still (σ := σ) (δ := Unit)) where
  toClosed := closed_still
  receive deadline := ofLink_still fun now s => hσ.receive_open now deadline s
  onBuffer _ _ := ⟨rfl, rfl⟩
  onLast _ _ := ⟨rfl, rfl⟩
  send data := ofLink_still fun now s => hσ.send_open now data s
  noted b _ _ := ⟨World.handled_note rfl b.world, rfl⟩
  later _ _ := ⟨rfl, rfl⟩

end Bench

/-- A reader of any family is looked for over its link as it is. -/
theorem AnyDevice.probe_still (hσ : Link.Faithful σ) : Keeps Still (probe (σ := σ)) := by
  intro b
  obtain ⟨hhandled, hopen⟩ := probe_aside (bystander_still hσ) b
  exact ⟨hhandled, hopen⟩

namespace Channel

def opens (b : Bench σ δ) : Bool := succeeded (openLink b)

theorem openLink_handled (b : Bench σ δ) :
    (after (openLink b)).world.handled = b.world.handled ++ [.opened b.channel.name] := by
  rw [openLink_eq, after_ofLink]
  exact World.handled_link (e := .opened b.channel.name) rfl b.world

theorem openLink_open (hσ : Link.Faithful σ) (b : Bench σ δ) :
    (after (openLink b)).channel.isConnected = (opens b || b.channel.isConnected) := by
  unfold opens
  cases hopen : openLink b with
  | ok _ b' =>
    have hconnected := (openLink_ok hσ hopen).2.1
    simp [after, succeeded, hconnected]
  | error e b' =>
    have hsame := (openLink_error hσ hopen).2
    simp [after, succeeded, hsame]

theorem close_handled (b : Bench σ δ) : (after (close b)).world.handled =
    b.world.handled ++ if b.channel.isConnected then [.closed b.channel.name] else [] := by
  rw [close_eq]
  by_cases hopen : b.channel.isConnected
  · rw [if_pos hopen, if_pos hopen, after_ofLink]
    exact World.handled_link (e := .closed b.channel.name) rfl b.world
  · rw [if_neg hopen, if_neg hopen, List.append_nil]
    rfl

end Channel

namespace Detection

variable [Driver δ]

/-- Whether the link opens and the probe then says that a reader answers. -/
def answering (b : Bench σ δ) : Bool :=
  match Channel.openLink b with
  | .error _ _ => false
  | .ok _ b =>
    match (Driver.probe : Act σ δ Bool) b with
    | .ok found _ => found
    | .error _ _ => false

def probed (b : Bench σ δ) : Bench σ δ := after (openProbe b)

/-- The benches at which candidates are tried when none of them answers. -/
def trials (timeout : Nat) : List (Nat → σ) → World → δ → List (Bench σ δ)
  | [], _, _ => []
  | make :: rest, w, d =>
    let b : Bench σ δ := ⟨w, Channel.onLink (make w.clock) timeout, d⟩
    b :: trials timeout rest (closed (probed b)).world (closed (probed b)).driver

/-- What happens to the link of a candidate that does not answer: it is opened, and it is closed
exactly if it is open then. -/
def handling (b : Bench σ δ) : List Event :=
  .opened b.channel.name ::
    if Channel.opens b || b.channel.isConnected then [.closed (probed b).channel.name] else []

theorem answers_eq (b : Bench σ δ) : answers b = (answering b, probed b) := by
  unfold answers answering probed openProbe
  cases hopen : Channel.openLink b with
  | error e b' =>
    rw [bind_error hopen]
    rfl
  | ok _ b' =>
    rw [bind_ok hopen]
    dsimp only
    cases (Driver.probe : Act σ δ Bool) b' with
    | ok found b'' => rfl
    | error e b'' => rfl

theorem search_cons (timeout : Nat) (make : Nat → σ) (rest : List (Nat → σ)) (w : World) (d : δ) :
    search timeout (make :: rest) w d =
      let b : Bench σ δ := ⟨w, Channel.onLink (make w.clock) timeout, d⟩
      if answering b then (some (probed b).channel, (probed b).world, (probed b).driver)
      else search timeout rest (closed (probed b)).world (closed (probed b)).driver := by
  rw [search, answers_eq]

/-- Each candidate in turn is made at the time at which it is tried. -/
theorem trials_made (timeout : Nat) (candidates : List (Nat → σ)) (w : World) (d : δ) :
    List.Forall₂ (fun make b => b.channel = Channel.onLink (make b.world.clock) timeout)
      candidates (trials timeout candidates w d) := by
  induction candidates generalizing w d with
  | nil => exact .nil
  | cons make rest ih => exact .cons rfl (ih _ _)

/-- A search keeps the channel of the first candidate that answers. -/
theorem search_found (timeout : Nat) (candidates : List (Nat → σ)) (w : World) (d : δ) :
    (search timeout candidates w d).1 =
      ((trials timeout candidates w d).find? answering).map fun b => (probed b).channel := by
  induction candidates generalizing w d with
  | nil => rfl
  | cons make rest ih =>
    rw [search_cons, trials]
    cases hanswer : answering (⟨w, Channel.onLink (make w.clock) timeout, d⟩ : Bench σ δ) with
    | true => simp [hanswer]
    | false => simp [hanswer, ih]

theorem opens_of_answering {b : Bench σ δ} (h : answering b) : Channel.opens b := by
  unfold answering at h
  unfold Channel.opens
  cases hopen : Channel.openLink b with
  | error e b' =>
    rw [hopen] at h
    contradiction
  | ok _ b' => rfl

variable (hσ : Link.Faithful σ) (hδ : Keeps Still (Driver.probe : Act σ δ Bool))
include hδ

/-- Probing is all that follows the opening. -/
theorem probed_still (b : Bench σ δ) : Still (after (Channel.openLink b)) (probed b) := by
  unfold probed openProbe
  cases hopen : Channel.openLink b with
  | error e b' =>
    rw [bind_error hopen]
    exact closed_still.refl b'
  | ok _ b' =>
    rw [bind_ok hopen]
    exact hδ b'

theorem probed_handled (b : Bench σ δ) :
    (probed b).world.handled = b.world.handled ++ [.opened b.channel.name] :=
  (probed_still hδ b).handled_eq.trans (Channel.openLink_handled b)

include hσ

theorem probed_open (b : Bench σ δ) :
    (probed b).channel.isConnected = (Channel.opens b || b.channel.isConnected) :=
  (probed_still hδ b).open_eq.trans (Channel.openLink_open hσ b)

theorem closed_handled (b : Bench σ δ) :
    (closed (probed b)).world.handled = b.world.handled ++ handling b := by
  rw [Reader.closed_after, Channel.close_handled, probed_handled hδ, probed_open hσ hδ]
  simp [handling]

/-- The candidates before the one that is kept were handled, that one was opened, and those after it
were left alone. -/
theorem search_handled (timeout : Nat) (candidates : List (Nat → σ)) (w : World) (d : δ) :
    let tried := trials timeout candidates w d
    (search timeout candidates w d).2.1.handled =
      w.handled ++ (tried.takeWhile (!answering ·)).flatMap handling ++
        (tried.find? answering).toList.map fun b => .opened b.channel.name := by
  induction candidates generalizing w d with
  | nil => simp [trials, search]
  | cons make rest ih =>
    intro tried
    obtain ⟨b, hb⟩ : ∃ b : Bench σ δ, b = ⟨w, Channel.onLink (make w.clock) timeout, d⟩ := ⟨_, rfl⟩
    have hstart : b.world = w := by rw [hb]
    have htried : tried =
        b :: trials timeout rest (closed (probed b)).world (closed (probed b)).driver := by
      rw [hb]
      rfl
    have hopened := probed_handled hδ b
    have hclosed := closed_handled hσ hδ b
    rw [hstart] at hopened hclosed
    rw [htried, search_cons, ← hb]
    cases hanswer : answering b with
    | true => simp [hanswer, hopened]
    | false =>
      have hrest := ih (closed (probed b)).world (closed (probed b)).driver
      simp [hanswer, hrest, hclosed]

/-- Detection succeeds when candidates were listed. It keeps the first candidate whose link opens
and whose probe says yes, and leaves its link open; it has opened each one before that and asked it
once to close if it was open then, and nothing else. The probe of a driver is to use the link as it
is; those of all families do, by `AnyDevice.probe_still`. -/
theorem first_answering_kept (timeout : Nat) {scanner : Scanner σ} {candidates : List (Nat → σ)}
    (hlisted : scanner.find scanner.looks = .ok candidates) (w : World) (d : δ) :
    let tried := trials timeout candidates (w.note .scanned) d
    let out := run timeout scanner w d
    List.Forall₂ (fun make b => b.channel = Channel.onLink (make b.world.clock) timeout)
        candidates tried ∧
      out.result = .ok ((tried.find? answering).map fun b => (probed b).channel) ∧
      (∀ c, out.result = .ok (some c) → c.isConnected) ∧
      (out.result = .ok none ↔ ∀ b ∈ tried, ¬ answering b) ∧
      out.world.handled = w.handled ++ (tried.takeWhile (!answering ·)).flatMap handling ++
        (tried.find? answering).toList.map fun b => .opened b.channel.name := by
  intro tried out
  have hfound := search_found timeout candidates (w.note .scanned) d
  have hhandled := search_handled hσ hδ timeout candidates (w.note .scanned) d
  have hresult : out.result = .ok ((tried.find? answering).map fun b => (probed b).channel) := by
    change (run timeout scanner w d).result = _
    unfold run
    rw [hlisted]
    exact congrArg Except.ok hfound
  refine ⟨trials_made timeout candidates _ d, hresult, ?_, ?_, ?_⟩
  · intro c hc
    rw [hresult] at hc
    obtain ⟨b, hfirst, hchannel⟩ := Option.map_eq_some_iff.mp (Except.ok.inj hc)
    have hanswer : answering b := List.find?_some hfirst
    rw [← hchannel, probed_open hσ hδ, opens_of_answering hanswer, Bool.true_or]
  · rw [hresult]
    constructor
    · intro hnone
      exact List.find?_eq_none.mp (Option.map_eq_none_iff.mp (Except.ok.inj hnone))
    · intro hnone
      rw [List.find?_eq_none.mpr hnone]
      rfl
  · have hnoted := World.handled_note (e := .scanned) rfl w
    change (run timeout scanner w d).world.handled = _
    unfold run
    rw [hlisted]
    exact hhandled.trans (by rw [hnoted])

end Detection

/-- A port that does not open, a silent one whose closing fails, one with a reader, and one more. -/
def fourPorts : List ScriptedLink :=
  [{ name := "sim0", openings := [some .connectionTimeout] },
    { name := "sim1", closing := some .connectionTimeout },
    { name := "sim2", reactions := [.deliver [(1, .chunk [0x02, 0x50, 0x0D])]] },
    { name := "sim3" }]

theorem first_answering_kept_fourPorts :
    Link.Faithful ScriptedLink ∧ Keeps Still (Driver.probe : Act ScriptedLink AnyDevice Bool) ∧
      (Scanner.scripted [.ok fourPorts]).find 0 = .ok (Scanner.candidates fourPorts) ∧
      let out := Detection.run 50 (Scanner.scripted [.ok fourPorts]) {} (AnyDevice.promag {})
      ∃ c, out.result = .ok (some c) ∧ c.name = "sim2" ∧ c.isConnected ∧
        out.world.handled = [.opened "sim0", .opened "sim1", .closed "sim1", .opened "sim2"] := by
  have hprobe : Keeps Still (Driver.probe : Act ScriptedLink AnyDevice Bool) :=
    AnyDevice.probe_still ScriptedLink.faithful
  have hlisted : (Scanner.scripted [.ok fourPorts]).find 0 = .ok (Scanner.candidates fourPorts) :=
    rfl
  obtain ⟨-, hresult, hopen, -, hhandled⟩ := Detection.first_answering_kept ScriptedLink.faithful
    hprobe 50 hlisted {} (AnyDevice.promag {})
  have htried : ((Detection.trials 50 (Scanner.candidates fourPorts) (World.note .scanned {})
      (AnyDevice.promag {})).find? Detection.answering).map (fun b =>
        (Detection.probed b).channel.name) = some "sim2" := by decide +kernel
  obtain ⟨b, hfirst, hname⟩ := Option.map_eq_some_iff.mp htried
  rw [hfirst] at hresult
  refine ⟨ScriptedLink.faithful, hprobe, hlisted, _, hresult, hname, hopen _ hresult, ?_⟩
  rw [hhandled]
  decide +kernel

end CardReader
