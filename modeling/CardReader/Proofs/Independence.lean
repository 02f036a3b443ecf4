import CardReader.Proofs.Detection
import CardReader.Proofs.Probing

namespace CardReader

open Run Act Bench

variable {σ α : Type}

/-- A source that lists the same candidates at each look. -/
def Scanner.listing (candidates : List (Nat → σ)) : Scanner σ := ⟨0, fun _ => .ok candidates⟩

namespace Detection

open AnyDevice

variable [Link σ]

/-- Whether an OSDP device refused at a candidate. -/
def refused (b : Bench σ AnyDevice) : Bool := refusal (openProbe b)

/-- A candidate that is rejected leaves a last command in the driver, and one more in its count if
the device refused. -/
theorem trial_rejected {b : Bench σ AnyDevice} (h : ¬ answering b) :
    Recoded (b.driver.moved (if refused b then 1 else 0)) (closed (probed b)).driver := by
  have hblind : Blind fun b b' : Bench σ AnyDevice => b'.driver = b.driver :=
    blind_driver (R := fun d d' => d' = d) closed_eq
  have hopened := hblind.openLink b
  have hclosed := hblind.close (probed b)
  rw [← Reader.closed_after] at hclosed
  rw [hclosed]
  unfold refused probed openProbe
  unfold answering at h
  cases hopen : Channel.openLink b with
  | error e c =>
    have hlink : e.isNak = false :=
      Channel.openLink_fails (E := fun e => ReaderError.isNak e = false) (fun _ => rfl) _ _ _ hopen
    rw [hopen] at hopened
    have hdriver : c.driver = b.driver := hopened
    rw [bind_error hopen]
    change Recoded (b.driver.moved (if e.isNak then 1 else 0)) c.driver
    rw [hlink, hdriver, if_neg Bool.false_ne_true, moved_zero]
    exact .same _
  | ok _ c =>
    rw [hopen] at h hopened
    have hdriver : c.driver = b.driver := hopened
    rw [bind_ok hopen, ← hdriver]
    apply probe_rejected
    intro t hfound
    have hprobe : (Driver.probe : Act σ AnyDevice Bool) c = .ok true t := hfound
    apply h
    dsimp only
    rw [hprobe]

/-- Candidates that are all rejected leave nothing behind for those after them but the time and the
count of refusals. -/
theorem trials_append (timeout : Nat) (candidates : List (Nat → σ)) (w : World) (d : AnyDevice)
    (h : ∀ b ∈ trials timeout candidates w d, ¬ answering b) :
    ∃ w' d', Recoded (d.moved ((trials timeout candidates w d).countP refused)) d' ∧
      ∀ more, trials timeout (candidates ++ more) w d =
        trials timeout candidates w d ++ trials timeout more w' d' := by
  induction candidates generalizing w d with
  | nil =>
    refine ⟨w, d, ?_, fun more => rfl⟩
    rw [trials, List.countP_nil, moved_zero]
    exact .same d
  | cons make rest ih =>
    let b : Bench σ AnyDevice := ⟨w, Channel.onLink (make w.clock) timeout, d⟩
    have hb : ¬ answering b := h b List.mem_cons_self
    have hfirst := trial_rejected hb
    obtain ⟨w', d', hrest, happend⟩ := ih (closed (probed b)).world (closed (probed b)).driver
      fun t ht => h t (List.mem_cons_of_mem _ ht)
    refine ⟨w', d', ?_, fun more => congrArg (b :: ·) (happend more)⟩
    have hmoved := closed_recoded.trans (hfirst.moved _) hrest
    rw [moved_add] at hmoved
    change Recoded (d.moved (List.countP refused (b :: _))) d'
    rw [List.countP_cons, Nat.add_comm]
    exact hmoved

/-- A candidate is judged alike wherever it stands and whatever command the driver remembers. -/
theorem trials_paired {timeout : Nat} {candidates : List (Nat → σ)}
    (hfixed : ∀ make ∈ candidates, Link.Fixed make) (w w' : World) {d d' : AnyDevice}
    (h : Recoded d d') :
    List.Forall₂ (fun b b' => answering b' = answering b ∧
        (probed b').channel.name = (probed b).channel.name)
      (trials timeout candidates w d) (trials timeout candidates w' d') := by
  induction candidates generalizing w w' d d' with
  | nil => exact .nil
  | cons make rest ih =>
    obtain ⟨R, hR, hmake⟩ := hfixed make List.mem_cons_self
    let b : Bench σ AnyDevice := ⟨w, Channel.onLink (make w.clock) timeout, d⟩
    let b' : Bench σ AnyDevice := ⟨w', Channel.onLink (make w'.clock) timeout, d'⟩
    have hstart : Paired R w.clock w'.clock Recoded b b' :=
      ⟨hmake _ _, Nat.add_comm _ _, rfl, rfl, rfl, h⟩
    have hprobed : Matched (Paired R w.clock w'.clock Recoded) (openProbe b) (openProbe b') :=
      Lockstep.bind (Channel.openLink_paired hR) (fun _ => probe_paired hR _ _) b b' hstart
    have hclosed : Paired R w.clock w'.clock Recoded (closed (probed b)) (closed (probed b')) := by
      rw [Reader.closed_after, Reader.closed_after]
      exact (Channel.close_paired hR _ _ hprobed.after).after
    have hanswer : answering b' = answering b := by
      have hfound : ∀ t : Bench σ AnyDevice, answering t = (answers t).1 := by
        intro t
        rw [answers_eq]
      rw [hfound, hfound]
      unfold answers
      generalize openProbe b = out, openProbe b' = out' at hprobed
      cases hprobed with
      | ok found h => rfl
      | error e h => rfl
    have hrest : ∀ make ∈ rest, Link.Fixed make := fun make hmem =>
      hfixed make (List.mem_cons_of_mem _ hmem)
    exact .cons ⟨hanswer, hR.name_eq hprobed.after.related⟩ (ih hrest _ _ hclosed.driver)

/-- Lists whose entries are judged alike have the same first one. -/
theorem first_alike {β : Type} {p : α → Bool} {f : α → β} {l l' : List α}
    (h : List.Forall₂ (fun a a' => p a' = p a ∧ f a' = f a) l l') :
    l'.findIdx? p = l.findIdx? p ∧ (l'.find? p).map f = (l.find? p).map f := by
  induction h with
  | nil => exact ⟨rfl, rfl⟩
  | @cons a a' l l' hhead htail ih =>
    obtain ⟨hp, hf⟩ := hhead
    obtain ⟨hidx, hfind⟩ := ih
    rw [List.findIdx?_cons, List.findIdx?_cons, List.find?_cons, List.find?_cons, hp]
    by_cases hfirst : p a
    · simp [hfirst, hf]
    · simp [hfirst, hidx, hfind]

/-- After candidates that are all rejected a search goes on as one that starts with a driver that
took part in as many exchanges as were refused. -/
theorem trials_moved {P Q : List (Nat → σ)} (hfixed : ∀ make ∈ Q, Link.Fixed make) (timeout : Nat)
    (w w' : World) (d : AnyDevice) (hrejected : ∀ b ∈ trials timeout P w d, ¬ answering b) :
    let tried := trials timeout (P ++ Q) w d
    let alone := trials timeout Q w' (d.moved ((trials timeout P w d).countP refused))
    tried.findIdx? answering = (alone.findIdx? answering).map (P.length + ·) ∧
      (tried.find? answering).map (fun b => (probed b).channel.name) =
        (alone.find? answering).map fun b => (probed b).channel.name := by
  intro tried alone
  obtain ⟨w₁, d₁, hd, happend⟩ := trials_append timeout P w d hrejected
  have htried : tried = trials timeout P w d ++ trials timeout Q w₁ d₁ := happend Q
  have hlength : (trials timeout P w d).length = P.length :=
    (trials_made timeout P w d).length_eq.symm
  have hnone : (trials timeout P w d).findIdx? answering = none := by
    rw [List.findIdx?_eq_none_iff]
    intro b hb
    exact Bool.eq_false_iff.mpr (hrejected b hb)
  obtain ⟨hidx, hfind⟩ := first_alike (trials_paired hfixed w' w₁ hd)
  rw [htried, List.findIdx?_append, List.find?_append, hnone, List.find?_eq_none.mpr hrejected,
    Option.none_or, Option.none_or, hidx, hfind, hlength]
  refine ⟨?_, rfl⟩
  simp only [Nat.add_comm]
  rfl

/-- Whether a reader is found at a port, and at which one, does not depend on the ports tried before
that are rejected, provided that none of them is an OSDP device that refuses: such a refusal counts
as an exchange, and the port that follows is then asked with the next sequence number. Other drivers
take no notice of what rejected ports answer. -/
theorem found_regardless {P Q : List (Nat → σ)} (hfixed : ∀ make ∈ Q, Link.Fixed make)
    (timeout : Nat) {scanner scanner' : Scanner σ}
    (hlisted : scanner.find scanner.looks = .ok (P ++ Q))
    (halone : scanner'.find scanner'.looks = .ok Q) (w w' : World) (d : AnyDevice)
    (hrejected : ∀ b ∈ trials timeout P (w.note .scanned) d, ¬ answering b)
    (hunmoved : d.family = .osdp → ∀ b ∈ trials timeout P (w.note .scanned) d, ¬ refused b) :
    let place := (trials timeout (P ++ Q) (w.note .scanned) d).findIdx? answering
    let place' := (trials timeout Q (w'.note .scanned) d).findIdx? answering
    place = place'.map (P.length + ·) ∧
      ∃ c c', (run timeout scanner w d).result = .ok c ∧
        (run timeout scanner' w' d).result = .ok c' ∧
        c.map Channel.name = c'.map Channel.name ∧ (c = none ↔ c' = none) := by
  intro place place'
  have hmoved :
      d.moved ((trials timeout P (w.note .scanned) d).countP refused) = d := by
    by_cases hfamily : d.family = .osdp
    · rw [List.countP_eq_zero.mpr (hunmoved hfamily), moved_zero]
    · exact moved_of_family hfamily _
  obtain ⟨hplace, hname⟩ :=
    trials_moved hfixed timeout (w.note .scanned) (w'.note .scanned) d hrejected
  rw [hmoved] at hplace hname
  have hfound := search_found timeout (P ++ Q) (w.note .scanned) d
  have hfound' := search_found timeout Q (w'.note .scanned) d
  have hsame : (search timeout (P ++ Q) (w.note .scanned) d).1.map Channel.name =
      (search timeout Q (w'.note .scanned) d).1.map Channel.name := by
    rw [hfound, hfound', Option.map_map, Option.map_map]
    exact hname
  refine ⟨hplace, _, _, ?_, ?_, hsame, ?_⟩
  · unfold run
    rw [hlisted]
  · unfold run
    rw [halone]
  · rw [← Option.map_eq_none_iff (f := Channel.name), hsame, Option.map_eq_none_iff]

/-- A port that does not open, a silent one, one whose device answers noise, and one whose device
answers for another address. -/
def fourRejected : List (Nat → ScriptedLink) :=
  [Scanner.made { name := "sim0", openings := [some .connectionTimeout] },
    Scanner.made { name := "sim1" },
    Scanner.made { name := "sim2", reactions := [.deliver [(2, .chunk [0xFF, 0x00, 0x53])]] },
    Scanner.made { name := "sim3", reactions :=
      [.deliver [(1, .chunk [0x53, 0x81, 0x08, 0x00, 0x04, 0x40, 0x08, 0x06])]] }]

/-- A device that answers the first poll, under the sequence number 0. -/
def pollable : Nat → ScriptedLink := Scanner.made { name := "sim4", reactions :=
  [.deliver [(1, .chunk [0x53, 0x80, 0x08, 0x00, 0x04, 0x40, 0x59, 0xAC])]] }

/-- A device that refuses the first poll. -/
def refusing : Nat → ScriptedLink := Scanner.made { name := "sim5", reactions :=
  [.deliver [(1, .chunk [0x53, 0x80, 0x09, 0x00, 0x04, 0x41, 0x03, 0x65, 0x84])]] }

/-- An OSDP host as it is configured. -/
def freshHost : AnyDevice := .osdp { framer := { address := 0 } }

theorem pollable_fixed : ∀ make ∈ [pollable], Link.Fixed make := by
  intro make hmake
  rw [List.mem_singleton.mp hmake]
  exact ScriptedLink.made_fixed _

theorem pollable_found : (search 400 [pollable] (World.note .scanned {})
    freshHost).1.map Channel.name = some "sim4" := by decide +kernel

theorem found_regardless_fourRejected :
    (∀ make ∈ [pollable], Link.Fixed make) ∧
      (Scanner.listing (fourRejected ++ [pollable])).find 0 = .ok (fourRejected ++ [pollable]) ∧
      (Scanner.listing [pollable]).find 0 = .ok [pollable] ∧
      (∀ b ∈ trials 400 fourRejected (World.note .scanned {}) freshHost, ¬ answering b) ∧
      (∀ b ∈ trials 400 fourRejected (World.note .scanned {}) freshHost, ¬ refused b) ∧
      (trials 400 (fourRejected ++ [pollable]) (World.note .scanned {}) freshHost).findIdx?
        answering = some 4 ∧
      ∃ c, (run 400 (Scanner.listing (fourRejected ++ [pollable])) {} freshHost).result =
        .ok (some c) ∧ c.name = "sim4" := by
  have hlisted : (Scanner.listing (fourRejected ++ [pollable])).find 0 =
      .ok (fourRejected ++ [pollable]) := rfl
  have halone : (Scanner.listing [pollable]).find 0 = .ok [pollable] := rfl
  have hrejected : ∀ b ∈ trials 400 fourRejected (World.note .scanned {}) freshHost,
      ¬ answering b := by decide +kernel
  have hunmoved : ∀ b ∈ trials 400 fourRejected (World.note .scanned {}) freshHost,
      ¬ refused b := by decide +kernel
  have hplace : (trials 400 [pollable] (World.note .scanned {}) freshHost).findIdx? answering =
      some 0 := by decide +kernel
  have hname := pollable_found
  obtain ⟨hfound, c, c', hresult, hresult', hsame, -⟩ := found_regardless pollable_fixed 400
    hlisted halone {} {} freshHost hrejected fun _ => hunmoved
  have hc' : (search 400 [pollable] (World.note .scanned {}) freshHost).1 = c' :=
    Except.ok.inj hresult'
  rw [hplace] at hfound
  rw [← hc', hname] at hsame
  obtain ⟨c, rfl, hc⟩ := Option.map_eq_some_iff.mp hsame
  exact ⟨pollable_fixed, hlisted, halone, hrejected, hunmoved, hfound, c, hresult, hc⟩

/-- A refusal moves the sequence number on, so the reader at the next port is passed over. -/
theorem refusal_hides_reader :
    AnyDevice.ofConfig { family := .osdp } = .ok freshHost ∧
      (∀ make ∈ [pollable], Link.Fixed make) ∧
      (∀ b ∈ trials 400 [refusing] (World.note .scanned {}) freshHost, ¬ answering b) ∧
      (∃ c, (run 400 (Scanner.listing [pollable]) {} freshHost).result = .ok (some c) ∧
        c.name = "sim4") ∧
      (run 400 (Scanner.listing ([refusing] ++ [pollable])) {} freshHost).result = .ok none := by
  have hrejected : ∀ b ∈ trials 400 [refusing] (World.note .scanned {}) freshHost,
      ¬ answering b := by decide +kernel
  have hnone : (search 400 ([refusing] ++ [pollable]) (World.note .scanned {})
      freshHost).1.isNone := by decide +kernel
  obtain ⟨c, hc, hname⟩ := Option.map_eq_some_iff.mp pollable_found
  exact ⟨rfl, pollable_fixed, hrejected, ⟨c, congrArg Except.ok hc, hname⟩,
    congrArg Except.ok (Option.isNone_iff_eq_none.mp hnone)⟩

end Detection

end CardReader
