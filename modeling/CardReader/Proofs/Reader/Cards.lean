import CardReader.Proofs.Reader.Operation

namespace CardReader

open Run

variable {σ δ α β : Type}

namespace Station

/-- Cards that a reader tells about, or is about to. -/
def remembered (s : Station σ δ) : List Chip :=
  s.reader.inserted.toList ++ s.reader.pending.toList

theorem mem_remembered {s : Station σ δ} {chip : Chip} :
    chip ∈ s.remembered ↔ s.reader.inserted = some chip ∨ s.reader.pending = some chip := by
  unfold remembered
  rw [List.mem_append, Option.mem_toList, Option.mem_toList]

/-- The same cards are remembered. -/
structure Mindful (s s' : Station σ δ) : Prop where
  inserted_eq : s'.reader.inserted = s.reader.inserted
  pending_eq : s'.reader.pending = s.reader.pending

theorem closed_mindful : Closed (Mindful (σ := σ) (δ := δ)) where
  refl _ := ⟨rfl, rfl⟩
  trans h h' := ⟨h'.inserted_eq.trans h.inserted_eq, h'.pending_eq.trans h.pending_eq⟩

theorem scannable_mindful : Reader.Scannable (Mindful (σ := σ) (δ := δ)) where
  toClosed := closed_mindful
  aside _ _ _ _ _ := ⟨rfl, rfl⟩

theorem Mindful.remembered_eq {s s' : Station σ δ} (h : Mindful s s') :
    s'.remembered = s.remembered := by
  unfold remembered
  rw [h.inserted_eq, h.pending_eq]

theorem vacated_mindful (s : Station σ δ) : Reader.Resumed Mindful s s.vacated := by
  rw [vacated_eq]
  exact ⟨⟨rfl, rfl⟩, rfl⟩

end Station

namespace Reader

open Station

theorem closed_resumed : Closed (Resumed (Mindful (σ := σ) (δ := δ))) :=
  scannable_mindful.closed_resumed

theorem forget_mindful (s : Station σ δ) : Resumed Mindful s s.forget := by
  by_cases h : s.reader.scanner.isSome
  · rw [forget_found h]
    exact ⟨⟨rfl, rfl⟩, rfl⟩
  · rw [forget_given h]
    exact closed_resumed.refl s

theorem atChannel_mindful (c : Channel σ) (act : Act σ δ α) :
    Keeps (Resumed Mindful) (atChannel c act) := by
  intro s
  rw [after_atChannel]
  exact ⟨⟨rfl, rfl⟩, rfl⟩

theorem quietly_mindful (act : Act σ δ Unit) (s : Station σ δ) :
    Resumed Mindful s (quietly act s) := by
  cases hchannel : s.reader.channel with
  | none =>
    unfold quietly
    rw [hchannel]
    exact closed_resumed.refl s
  | some c =>
    rw [quietly_some hchannel]
    exact atChannel_mindful c act s

def entered (shown : Bool) (s : Station σ δ) : Station σ δ :=
  let s := s.onReader ({ · with state := .scanning })
  if shown then s else { s with world := s.world.hush }

theorem scanning_ok {shown : Bool} {op : Op σ δ β} {s t : Station σ δ} {b : β}
    (h : scanning shown op s = .ok b t) : ∃ u, op (entered shown s) = .ok b u := by
  unfold scanning at h
  cases hrun : op (entered shown s) with
  | ok b' u =>
    unfold entered at hrun
    dsimp only at h hrun
    rw [hrun] at h
    injection h with hb _
    exact ⟨u, by rw [hb]⟩
  | error e u =>
    unfold entered at hrun
    dsimp only at h hrun
    rw [hrun] at h
    contradiction

variable [Link σ]

theorem use_mindful (act : Act σ δ α) : Keeps (Resumed Mindful) (use act) := by
  intro s
  by_cases hs : s.reader.isConnected
  · obtain ⟨c, huse⟩ := use_connected act hs
    rw [huse]
    exact atChannel_mindful c act s
  · rw [use_apart act hs]
    exact closed_resumed.refl s

theorem endSession_mindful (act : Act σ δ Unit) : Keeps Mindful (endSession act) :=
  Keeps.bind closed_mindful (fun s => (use_mindful act s).1) fun _ =>
    Keeps.change fun _ => ⟨rfl, rfl⟩

theorem keep_mindful (c : Channel σ) : Keeps (Resumed Mindful) (keep (δ := δ) c) := by
  intro s
  unfold keep
  split
  · exact ⟨⟨rfl, rfl⟩, rfl⟩
  · unfold claim
    cases s.world.claim? c.name with
    | none =>
      obtain ⟨hcards, hstate⟩ := quietly_mindful (δ := δ) Channel.close
        (s.onReader ({ · with channel := some c }))
      exact ⟨⟨hcards.inserted_eq, hcards.pending_eq⟩, hstate⟩
    | some world =>
      obtain ⟨hcards, hstate⟩ := vacated_mindful { s with world }
      exact ⟨⟨hcards.inserted_eq, hcards.pending_eq⟩, hstate⟩

variable [Driver δ]

theorem look_mindful : Keeps Mindful (look : Op σ δ (Option Chip)) := by
  unfold look
  exact Keeps.bind closed_mindful (Keeps.get closed_mindful) fun _ s => (use_mindful _ s).1

theorem detect_mindful : Keeps (Resumed Mindful) (detect : Op σ δ Unit) := by
  intro s
  rw [detect_eq]
  split
  · exact closed_resumed.refl s
  · split
    · exact closed_resumed.refl s
    · split
      · exact ⟨⟨rfl, rfl⟩, rfl⟩
      · exact ⟨⟨rfl, rfl⟩, rfl⟩
      · exact closed_resumed.trans (t := looked _ s) ⟨⟨rfl, rfl⟩, rfl⟩ (keep_mindful _ _)

theorem openChannel_mindful : Keeps (Resumed Mindful) (openChannel : Op σ δ Unit) := by
  intro s
  unfold openChannel
  rw [get_bind_run]
  cases s.reader.channel with
  | none => exact detect_mindful s
  | some c => exact atChannel_mindful c _ s

theorem start_mindful : Keeps Mindful (start : Op σ δ Unit) := by
  intro s
  unfold start
  cases s.reader.channel with
  | none => exact closed_mindful.refl s
  | some c =>
    dsimp only
    split
    · rename_i t hrun
      obtain ⟨hat, -⟩ := (atChannel_mindful c _).of_ok hrun
      exact ⟨hat.inserted_eq, hat.pending_eq⟩
    · rename_i e t hrun
      have hat := (atChannel_mindful c _).of_error hrun
      have hclosed := closed_resumed.trans (quietly_mindful Channel.close t) (forget_mindful _)
      obtain ⟨hall, -⟩ := closed_resumed.trans hat hclosed
      exact ⟨hall.inserted_eq, hall.pending_eq⟩

theorem connect_mindful : Keeps Mindful (connect : Op σ δ Unit) := by
  intro s
  by_cases hc : s.reader.isConnected
  · rw [connect_connected hc]
    exact closed_mindful.refl s
  · rw [connect_apart hc]
    exact Keeps.bind closed_mindful (fun t => (openChannel_mindful t).1) (fun _ => start_mindful) s

theorem start_failed {s t : Station σ δ} {e : ReaderError} (hchannel : s.reader.channel.isSome)
    (h : start s = .error e t) : t.reader.state = .disconnected := by
  obtain ⟨c, hc⟩ := Option.isSome_iff_exists.mp hchannel
  have hb : bench? s = some _ := Option.map_eq_some_iff.mpr ⟨c, hc, rfl⟩
  cases hrun : (Driver.configure : Act σ δ Unit) _ with
  | ok _ b =>
    rw [start_configured hb hrun] at h
    contradiction
  | error e' b =>
    rw [start_unconfigured hb hrun] at h
    injection h with _ ht
    rw [← ht]
    rfl

/-- A reader that is disconnected and does not get connected stays disconnected. -/
theorem connect_failed {s t : Station σ δ} {e : ReaderError}
    (hs : s.reader.state = .disconnected) (h : connect s = .error e t) :
    t.reader.state = .disconnected := by
  by_cases hc : s.reader.isConnected
  · rw [connect_connected hc] at h
    contradiction
  · rw [connect_apart hc] at h
    cases hopen : openChannel s with
    | ok _ u =>
      rw [bind_ok hopen] at h
      exact start_failed (openChannel_channel hopen) h
    | error e' u =>
      obtain ⟨-, hstate⟩ := openChannel_mindful.of_error hopen
      rw [bind_error hopen] at h
      injection h with _ ht
      rw [← ht, hstate, hs]

/-- Whatever comes of the release and of the closing, no card is remembered. -/
theorem disconnect_forgets (s : Station σ δ) :
    (after (disconnect s)).reader.state = .disconnected ∧
      (after (disconnect s)).remembered = [] := by
  have hgiven : ∀ t, Resumed Mindful
      (s.onReader ({ · with state := .disconnected, inserted := none, pending := none })) t →
      t.reader.state = .disconnected ∧ t.remembered = [] :=
    fun t ht => ⟨ht.2, ht.1.remembered_eq⟩
  apply hgiven
  unfold disconnect
  dsimp only
  generalize s.onReader
    ({ · with state := .disconnected, inserted := none, pending := none }) = first
  split
  · exact closed_resumed.refl first
  · split
    · exact forget_mindful first
    · have hreleased := quietly_mindful Driver.release first
      split
      · rename_i t hrun
        have hclosed := (atChannel_mindful _ _).of_ok hrun
        exact closed_resumed.trans (closed_resumed.trans hreleased hclosed) (forget_mindful t)
      · rename_i e t hrun
        have hclosed := (atChannel_mindful _ _).of_error hrun
        exact closed_resumed.trans (closed_resumed.trans hreleased hclosed) (forget_mindful t)

/-- Cards that the looks of a poll see. -/
def sightings (judge : Option Chip → Option β) (deadline : Option Nat) :
    Nat → Station σ δ → List Chip
  | 0, _ => []
  | looks + 1, s =>
    match look s with
    | .error _ _ => []
    | .ok seen t =>
      seen.toList ++
        match judge seen with
        | some _ => []
        | none =>
          match rest deadline t with
          | .ok true u => sightings judge deadline looks u
          | _ => []

/-- The same of a poll for a time. -/
def sightingsFor (judge : Option Chip → Option β) (wait patience : Nat) (s : Station σ δ) :
    List Chip :=
  if wait = 0 then sightings judge none patience s
  else sightings judge (some (s.world.clock + wait))
    (looksWithin wait (Driver.pollInterval s.reader.driver) patience)
    (s.reckon (s.world.clock + wait))

/-- What settles a poll is what one of its looks saw. -/
theorem poll_sighted {judge : Option Chip → Option β} {deadline : Option Nat} {looks : Nat}
    {s t : Station σ δ} {settled : β} (h : poll judge deadline looks s = .ok (some settled) t) :
    ∃ seen, judge seen = some settled ∧ ∀ chip, seen = some chip →
      chip ∈ sightings judge deadline looks s := by
  induction looks generalizing s with
  | zero =>
    injection h with hnone _
    contradiction
  | succ looks ih =>
    unfold poll at h
    obtain ⟨seen, u, hlook, h⟩ := of_bind_ok h
    unfold sightings
    rw [hlook]
    dsimp only
    cases hjudge : judge seen with
    | some settled' =>
      rw [hjudge] at h
      injection h with hsettled _
      refine ⟨seen, by rw [hjudge, ← hsettled], ?_⟩
      intro chip hchip
      rw [hchip]
      exact List.mem_append_left _ (List.mem_singleton_self chip)
    | none =>
      rw [hjudge] at h
      dsimp only at h
      obtain ⟨again, v, hrest, h⟩ := of_bind_ok h
      cases again with
      | false =>
        injection h with hnone _
        contradiction
      | true =>
        obtain ⟨seen', hjudge', hseen⟩ := ih h
        rw [hrest]
        exact ⟨seen', hjudge', fun chip hchip => List.mem_append_right _ (hseen chip hchip)⟩

theorem pollFor_sighted {judge : Option Chip → Option β} {wait patience : Nat}
    {s t : Station σ δ} {settled : β} (h : pollFor judge wait patience s = .ok (some settled) t) :
    ∃ seen, judge seen = some settled ∧ ∀ chip, seen = some chip →
      chip ∈ sightingsFor judge wait patience s := by
  rw [pollFor_eq] at h
  unfold sightingsFor
  by_cases hwait : wait = 0
  · rw [if_pos hwait] at h ⊢
    exact poll_sighted h
  · rw [if_neg hwait] at h ⊢
    exact poll_sighted h

/-- Cards that the looks of a wait for a card see. -/
def insertionSightings (wait patience : Nat) (s : Station σ δ) : List Chip :=
  if s.reader.isConnected ∧ s.reader.pending = none then
    sightingsFor id wait patience (entered s.reader.settings.seeInsertionLog s)
  else []

/-- Cards that the looks of a wait for a card to go see. -/
def removalSightings (wait patience : Nat) (s : Station σ δ) : List Chip :=
  match s.reader.inserted with
  | none => []
  | some inserted =>
    if s.reader.isConnected then
      sightingsFor (Removal.judge inserted) wait patience
        (entered s.reader.settings.seeRemovalLog s)
    else []

/-- A wait for a card hands out the one kept for it, or is a scan. -/
theorem waitInsertion_eq (wait patience : Nat) {s : Station σ δ} (hc : s.reader.isConnected) :
    waitInsertion wait patience s =
      match s.reader.pending with
      | some chip =>
        .ok (some chip) (s.onReader ({ · with pending := none, inserted := some chip }))
      | none =>
        match scanning s.reader.settings.seeInsertionLog (pollFor id wait patience) s with
        | .error e t => .error e t
        | .ok none t => .ok none t
        | .ok (some chip) t => .ok (some chip) (t.onReader ({ · with inserted := some chip })) := by
  unfold waitInsertion
  rw [get_bind_run, if_neg (not_not_intro hc)]
  cases s.reader.pending with
  | some chip => rfl
  | none =>
    change (scanning _ _ >>= _) s = _
    dsimp only
    cases hscan : scanning s.reader.settings.seeInsertionLog (pollFor id wait patience) s with
    | error e t => rw [bind_error hscan]
    | ok seen t =>
      rw [bind_ok hscan]
      cases seen with
      | none => rfl
      | some chip => rfl

/-- A wait for a card to go is a scan, whose result moves cards. -/
theorem waitRemoval_eq (wait patience : Nat) {s : Station σ δ} (hc : s.reader.isConnected) :
    waitRemoval wait patience s =
      match s.reader.inserted with
      | none => .ok true s
      | some inserted =>
        match scanning s.reader.settings.seeRemovalLog
          (pollFor (Removal.judge inserted) wait patience) s with
        | .error e t => .error e t
        | .ok none t => .ok false t
        | .ok (some removal) t => .ok true (t.onReader fun r =>
          { r with inserted := none, pending := removal.chip?.or r.pending }) := by
  unfold waitRemoval
  rw [get_bind_run, if_neg (not_not_intro hc)]
  cases s.reader.inserted with
  | none => rfl
  | some inserted =>
    change (scanning _ _ >>= _) s = _
    dsimp only
    cases hscan : scanning s.reader.settings.seeRemovalLog
        (pollFor (Removal.judge inserted) wait patience) s with
    | error e t => rw [bind_error hscan]
    | ok removal t =>
      rw [bind_ok hscan]
      cases removal with
      | none => rfl
      | some removal => rfl

theorem wait_mindful (shown : Bool) (judge : Option Chip → Option β) (wait patience : Nat) :
    Keeps (Resumed Mindful) (scanning shown (pollFor judge wait patience) : Op σ δ (Option β)) :=
  scannable_mindful.scanning (scannable_mindful.pollFor look_mindful judge wait patience) shown

/-- After a wait for a card, each card that is remembered was remembered before or was seen. -/
theorem waitInsertion_remembered (wait patience : Nat) (s : Station σ δ) :
    ∀ chip ∈ (after (waitInsertion wait patience s)).remembered,
      chip ∈ insertionSightings wait patience s ++ s.remembered := by
  intro chip hchip
  rw [List.mem_append]
  by_cases hc : s.reader.isConnected
  · unfold insertionSightings
    rw [waitInsertion_eq wait patience hc] at hchip
    cases hpending : s.reader.pending with
    | some old =>
      rw [hpending] at hchip
      obtain hchip | hchip := mem_remembered.mp hchip
      · exact .inr (mem_remembered.mpr (.inr (hpending.trans hchip)))
      · contradiction
    | none =>
      rw [hpending] at hchip
      rw [if_pos ⟨hc, rfl⟩]
      dsimp only at hchip
      split at hchip
      · rename_i e t hscan
        obtain ⟨hmindful, -⟩ := (wait_mindful _ _ wait patience).of_error hscan
        exact .inr (hmindful.remembered_eq ▸ hchip)
      · rename_i t hscan
        obtain ⟨hmindful, -⟩ := (wait_mindful _ _ wait patience).of_ok hscan
        exact .inr (hmindful.remembered_eq ▸ hchip)
      · rename_i seen t hscan
        obtain ⟨hmindful, -⟩ := (wait_mindful _ _ wait patience).of_ok hscan
        obtain ⟨v, hpoll⟩ := scanning_ok hscan
        obtain ⟨_, rfl, hsighted⟩ := pollFor_sighted hpoll
        obtain hchip | hchip := mem_remembered.mp hchip
        · exact .inl (hsighted chip hchip)
        · have hnone := hmindful.pending_eq.trans hpending
          rw [show t.reader.pending = some chip from hchip] at hnone
          contradiction
  · right
    unfold waitInsertion at hchip
    rw [get_bind_run, if_pos hc] at hchip
    exact hchip

theorem Removal.judge_chip {inserted chip : Chip} {seen : Option Chip} {removal : Removal}
    (h : Removal.judge inserted seen = some removal) (hchip : removal.chip? = some chip) :
    seen = some chip := by
  unfold Removal.judge at h
  cases seen with
  | none =>
    rw [← Option.some.inj h] at hchip
    contradiction
  | some seen =>
    dsimp only at h
    split at h
    · contradiction
    · rw [← Option.some.inj h] at hchip
      exact hchip

/-- The same after a wait for a card to go. -/
theorem waitRemoval_remembered (wait patience : Nat) (s : Station σ δ) :
    ∀ chip ∈ (after (waitRemoval wait patience s)).remembered,
      chip ∈ removalSightings wait patience s ++ s.remembered := by
  intro chip hchip
  rw [List.mem_append]
  by_cases hc : s.reader.isConnected
  · unfold removalSightings
    rw [waitRemoval_eq wait patience hc] at hchip
    cases hinserted : s.reader.inserted with
    | none =>
      rw [hinserted] at hchip
      exact .inr hchip
    | some inserted =>
      rw [hinserted] at hchip
      dsimp only at hchip ⊢
      rw [if_pos hc]
      split at hchip
      · rename_i e t hscan
        obtain ⟨hmindful, -⟩ := (wait_mindful _ _ wait patience).of_error hscan
        exact .inr (hmindful.remembered_eq ▸ hchip)
      · rename_i t hscan
        obtain ⟨hmindful, -⟩ := (wait_mindful _ _ wait patience).of_ok hscan
        exact .inr (hmindful.remembered_eq ▸ hchip)
      · rename_i removal t hscan
        obtain ⟨hmindful, -⟩ := (wait_mindful _ _ wait patience).of_ok hscan
        obtain ⟨v, hpoll⟩ := scanning_ok hscan
        obtain ⟨seen, hjudge, hsighted⟩ := pollFor_sighted hpoll
        obtain hchip | hchip := mem_remembered.mp hchip
        · contradiction
        · obtain hchip | ⟨-, hchip⟩ := Option.or_eq_some_iff.mp hchip
          · exact .inl (hsighted chip (Removal.judge_chip hjudge hchip))
          · exact .inr (mem_remembered.mpr (.inr (hmindful.pending_eq ▸ hchip)))
  · right
    unfold waitRemoval at hchip
    rw [get_bind_run, if_pos hc] at hchip
    exact hchip

theorem waitInsertion_inserted {wait patience : Nat} {s t : Station σ δ} {chip : Chip}
    (h : waitInsertion wait patience s = .ok (some chip) t) : t.reader.inserted = some chip := by
  by_cases hc : s.reader.isConnected
  · rw [waitInsertion_eq wait patience hc] at h
    split at h
    · injection h with hchip ht
      rw [← ht]
      exact hchip
    · split at h
      · contradiction
      · injection h with hchip _
        contradiction
      · injection h with hchip ht
        rw [← ht]
        exact hchip
  · unfold waitInsertion at h
    rw [get_bind_run, if_pos hc] at h
    contradiction

namespace Operation

/-- Cards that the looks of an operation see. -/
def sightings (s : Station σ δ) : Operation σ δ → List Chip
  | waitInsertion wait patience => insertionSightings wait patience s
  | waitRemoval wait patience => removalSightings wait patience s
  | _ => []

/-- A reader that is not connected sees no card. -/
theorem sightings_apart {s : Station σ δ} (hs : s.reader.state = .disconnected)
    (op : Operation σ δ) : op.sightings s = [] := by
  have hapart : ¬ s.reader.isConnected := by
    unfold isConnected
    rw [hs]
    exact Bool.false_ne_true
  cases op with
  | waitInsertion wait patience => exact if_neg fun h => hapart h.1
  | waitRemoval wait patience =>
    change removalSightings wait patience s = []
    unfold removalSightings
    cases s.reader.inserted with
    | none => rfl
    | some inserted => exact if_neg hapart
  | _ => rfl

/-- Only the looks of an operation can add to the cards that are remembered. -/
theorem run_remembered (op : Operation σ δ) (s : Station σ δ) :
    ∀ chip ∈ (after (op.run s)).remembered, chip ∈ op.sightings s ++ s.remembered := by
  have hsame : ∀ {t : Station σ δ}, Mindful s t →
      ∀ chip ∈ t.remembered, chip ∈ [] ++ s.remembered := by
    intro t ht chip hchip
    exact ht.remembered_eq ▸ hchip
  cases op with
  | connect => exact hsame (connect_mindful s)
  | disconnect =>
    intro chip hchip
    change chip ∈ (after (Reader.disconnect s)).remembered at hchip
    rw [(disconnect_forgets s).2] at hchip
    contradiction
  | waitInsertion wait patience =>
    intro chip hchip
    apply waitInsertion_remembered
    change chip ∈ (after ((Reader.waitInsertion wait patience >>= fun _ => pure ()) s)).remembered
      at hchip
    cases hrun : Reader.waitInsertion wait patience s with
    | ok _ t =>
      rw [bind_ok hrun] at hchip
      exact hchip
    | error e t =>
      rw [bind_error hrun] at hchip
      exact hchip
  | waitRemoval wait patience =>
    intro chip hchip
    apply waitRemoval_remembered
    change chip ∈ (after ((Reader.waitRemoval wait patience >>= fun _ => pure ()) s)).remembered
      at hchip
    cases hrun : Reader.waitRemoval wait patience s with
    | ok _ t =>
      rw [bind_ok hrun] at hchip
      exact hchip
    | error e t =>
      rw [bind_error hrun] at hchip
      exact hchip
  | command act => exact hsame (use_mindful act s).1
  | endSession act => exact hsame (endSession_mindful act s)
  | adjust f => exact hsame ⟨rfl, rfl⟩
  | incident f => exact hsame ⟨rfl, rfl⟩
  | elsewhere f => exact hsame ⟨rfl, rfl⟩

end Operation

/-- Whether connecting opens the link. -/
def reopens (s : Station σ δ) : Bool := !s.reader.isConnected && succeeded (openChannel s)

/-- What some operations led to: the cards that the present connection showed, whether the reader
was connected and not disconnected since, and the cards that it remembered when its link was opened
again in spite of that. -/
structure Memory (σ δ : Type) where
  station : Station σ δ
  seen : List Chip := []
  inUse : Bool := false
  carried : List Chip := []

namespace Memory

def connect (m : Memory σ δ) : Memory σ δ :=
  let reached := { m with
    station := after (Reader.connect m.station)
    inUse := m.inUse || succeeded (Reader.connect m.station) }
  if reopens m.station then
    { reached with seen := [], carried := if m.inUse then m.station.remembered else [] }
  else reached

def step (m : Memory σ δ) : Operation σ δ → Memory σ δ
  | .connect => m.connect
  | .disconnect => { station := after (Reader.disconnect m.station) }
  | op => { m with
    station := after (op.run m.station)
    seen := op.sightings m.station ++ m.seen }

def run (s : Station σ δ) (ops : List (Operation σ δ)) : Memory σ δ :=
  ops.foldl step { station := s }

theorem station_step (m : Memory σ δ) (op : Operation σ δ) :
    (m.step op).station = after (op.run m.station) := by
  cases op with
  | connect =>
    change m.connect.station = _
    unfold connect
    split <;> rfl
  | _ => rfl

theorem station_run (s : Station σ δ) (ops : List (Operation σ δ)) :
    (run s ops).station = Operation.runs s ops := by
  have h : ∀ m : Memory σ δ, (ops.foldl step m).station = Operation.runs m.station ops := by
    induction ops with
    | nil => exact fun _ => rfl
    | cons op ops ih =>
      intro m
      rw [List.foldl_cons, ih, station_step]
      rfl
  exact h _

/-- Each card that is remembered was seen on this connection, or carried over to it; a reader that
is not in use remembers none. -/
structure Honest (m : Memory σ δ) : Prop where
  known : ∀ chip ∈ m.station.remembered, chip ∈ m.seen ++ m.carried
  apart : m.inUse = false → m.station.reader.state = .disconnected ∧ m.station.remembered = []

/-- Only an opening of the link begins a new account of the cards. -/
theorem Honest.connect {m : Memory σ δ} (h : m.Honest) : m.connect.Honest := by
  have hsame := (connect_mindful m.station).remembered_eq
  have hapart : (m.inUse || succeeded (Reader.connect m.station)) = false →
      (after (Reader.connect m.station)).reader.state = .disconnected ∧
        (after (Reader.connect m.station)).remembered = [] := by
    intro hfree
    rw [Bool.or_eq_false_iff] at hfree
    obtain ⟨hstate, hnone⟩ := h.apart hfree.1
    refine ⟨?_, hsame.trans hnone⟩
    cases hrun : Reader.connect m.station with
    | ok _ t =>
      rw [hrun] at hfree
      exact absurd hfree.2 Bool.true_eq_false.mp
    | error e t => exact connect_failed hstate hrun
  unfold Memory.connect
  dsimp only
  split
  · refine ⟨?_, hapart⟩
    intro chip hchip
    have hold : chip ∈ m.station.remembered := hsame ▸ hchip
    by_cases huse : m.inUse
    · rw [if_pos huse]
      exact hold
    · rw [(h.apart (Bool.not_eq_true _ ▸ huse)).2] at hold
      contradiction
  · exact ⟨fun chip hchip => h.known chip (hsame ▸ hchip), hapart⟩

/-- One operation, also one that fails. -/
theorem Honest.step {m : Memory σ δ} (h : m.Honest) (op : Operation σ δ) : (m.step op).Honest := by
  have hother : op ≠ .connect → op ≠ .disconnect → Honest { m with
      station := after (op.run m.station)
      seen := op.sightings m.station ++ m.seen } := by
    intro hconnect hdisconnect
    have hremembered := op.run_remembered m.station
    refine ⟨?_, ?_⟩
    · intro chip hchip
      rw [List.append_assoc]
      obtain hnew | hold := List.mem_append.mp (hremembered chip hchip)
      · exact List.mem_append_left _ hnew
      · exact List.mem_append_right _ (h.known chip hold)
    · intro hfree
      obtain ⟨hstate, hnone⟩ := h.apart hfree
      refine ⟨(Operation.run_alike hconnect hdisconnect m.station).2.mpr hstate, ?_⟩
      rw [Operation.sightings_apart hstate, hnone] at hremembered
      exact List.eq_nil_iff_forall_not_mem.mpr fun chip hchip =>
        absurd (hremembered chip hchip) List.not_mem_nil
  cases op with
  | connect => exact h.connect
  | disconnect =>
    obtain ⟨hstate, hnone⟩ := disconnect_forgets m.station
    refine ⟨fun chip hchip => ?_, fun _ => ⟨hstate, hnone⟩⟩
    change chip ∈ (after (Reader.disconnect m.station)).remembered at hchip
    rw [hnone] at hchip
    contradiction
  | _ => exact hother nofun nofun

theorem Honest.run {m : Memory σ δ} (h : m.Honest) (ops : List (Operation σ δ)) :
    (ops.foldl Memory.step m).Honest := by
  induction ops generalizing m with
  | nil => exact h
  | cons op ops ih => exact ih (h.step op)

omit [Link σ] [Driver δ] in
theorem honest_new {s : Station σ δ} (hs : s.reader.New) : Honest { station := s } := by
  have hnone : s.remembered = [] := by
    unfold remembered
    rw [hs.inserted_eq, hs.pending_eq]
    rfl
  refine ⟨fun chip hchip => ?_, fun _ => ⟨hs.state_eq, hnone⟩⟩
  change chip ∈ s.remembered at hchip
  rw [hnone] at hchip
  contradiction

/-- A wait returns a card that it saw, or one that is remembered. -/
theorem Honest.returned {m : Memory σ δ} (h : m.Honest) {wait patience : Nat} {chip : Chip}
    {t : Station σ δ} (hwait : Reader.waitInsertion wait patience m.station = .ok (some chip) t) :
    chip ∈ insertionSightings wait patience m.station ++ (m.seen ++ m.carried) := by
  have hmem := waitInsertion_remembered wait patience m.station chip
  rw [hwait] at hmem
  obtain hnew | hold := List.mem_append.mp
    (hmem (mem_remembered.mpr (.inl (waitInsertion_inserted hwait))))
  · exact List.mem_append_left _ hnew
  · exact List.mem_append_right _ (h.known chip hold)

end Memory

end Reader

end CardReader
