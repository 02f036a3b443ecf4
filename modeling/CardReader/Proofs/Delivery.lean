import CardReader.Link.Scripted
import CardReader.Proofs.Channel
import CardReader.Proofs.Frame.Chunks
import CardReader.Rpleth.Framer

namespace CardReader

open Run Act

variable {σ δ α : Type}

/-- From `now` on, a link brings chunks before the deadline, and `ends` holds of it after them. -/
inductive Arrives [Link σ] (deadline : Nat) (ends : Nat → σ → Prop) :
    Nat → σ → List Bytes → Prop where
  | done {now : Nat} {link : σ} (hends : ends now link) : Arrives deadline ends now link []
  | chunk {now : Nat} {link : σ} {chunk : Bytes} {chunks : List Bytes} (hsome : chunk ≠ [])
      (hbrings : (Link.receive now deadline link).result = .ok chunk)
      (hearly : now + (Link.receive now deadline link).elapsed < deadline)
      (hrest : Arrives deadline ends (now + (Link.receive now deadline link).elapsed)
        (Link.receive now deadline link).link chunks) :
      Arrives deadline ends now link (chunk :: chunks)

/-- From `now` on, a link brings chunks before the deadline and then falls silent. -/
abbrev Delivers [Link σ] (deadline : Nat) : Nat → σ → List Bytes → Prop :=
  Arrives deadline fun now link => now < deadline → (Link.receive now deadline link).result = .ok []

/-- From `now` on, a link brings chunks before the deadline; what follows them is left open. -/
abbrev Brings [Link σ] (deadline : Nat) : Nat → σ → List Bytes → Prop :=
  Arrives deadline fun _ _ => True

namespace Arrives

variable [Link σ] {deadline now : Nat} {ends : Nat → σ → Prop} {link : σ} {chunks : List Bytes}

theorem length_le (h : Arrives deadline ends now link chunks) :
    chunks.length ≤ Link.backlog link := by
  induction h with
  | done hends => exact Nat.zero_le _
  | chunk hsome hbrings hearly hrest ih =>
    have hless := Link.backlog_receive _ _ _ _ hbrings hsome
    rw [List.length_cons]
    omega

theorem ne_nil (h : Arrives deadline ends now link chunks) : ∀ chunk ∈ chunks, chunk ≠ [] := by
  induction h with
  | done hends => exact fun chunk hmem => absurd hmem List.not_mem_nil
  | chunk hsome hbrings hearly hrest ih => exact List.forall_mem_cons.mpr ⟨hsome, ih⟩

end Arrives

namespace FrameBuffer

theorem next_eq (family : Family) (b : FrameBuffer) :
    b.next family = ((frames b.capacity family b.data).1.head?,
      { b with data := (take b.capacity family b.data).2 }) := by
  have h := frames_take b.capacity family b.data
  unfold next
  rcases ht : take b.capacity family b.data with ⟨_ | frame, rest⟩
  · rw [ht] at h
    simp [h]
  · rw [ht] at h
    simp [h]

theorem left_of_none (family : Family) (capacity : Nat) (data : Bytes)
    (h : (frames capacity family data).1 = []) :
    (frames capacity family data).2 = (take capacity family data).2 := by
  have ht := frames_take capacity family data
  rcases hs : take capacity family data with ⟨_ | frame, rest⟩
  · rw [hs] at ht
    simp [ht]
  · rw [hs] at ht
    rw [ht] at h
    contradiction

/-- Bytes from which no frame can be taken leave nothing but noise out. -/
theorem frames_none (family : Family) (hp : family ≠ .promag) (capacity : Nat) (data more : Bytes)
    (h : (frames capacity family data).1 = []) :
    frames capacity family (data ++ more) =
      frames capacity family ((take capacity family data).2 ++ more) := by
  rw [frames_append family hp, h, left_of_none family capacity data h, List.nil_append]

/-- `frame` is taken at some point while chunks come in after `data`, and nothing is taken or left
out before. -/
inductive Settles (capacity : Nat) (family : Family) (frame : Bytes) :
    Bytes → List Bytes → Prop where
  | here {data rest : Bytes} {chunks : List Bytes}
      (htaken : take capacity family data = (some frame, rest)) :
      Settles capacity family frame data chunks
  | later {data chunk : Bytes} {chunks : List Bytes}
      (hwaits : take capacity family data = (none, data))
      (hrest : Settles capacity family frame (data ++ chunk) chunks) :
      Settles capacity family frame data (chunk :: chunks)

end FrameBuffer

namespace Channel

open FrameBuffer

/-- A bench after a look for a frame, which leaves out the noise in front of what is buffered. -/
def swept (family : Family) (b : Bench σ δ) : Bench σ δ :=
  { b with channel := { b.channel with buffer := { b.channel.buffer with
      data := (take b.channel.buffer.capacity family b.channel.buffer.data).2 } } }

theorem takeFrame_run (family : Family) (b : Bench σ δ) :
    takeFrame family b = .ok (frames b.channel.buffer.capacity family
      b.channel.buffer.data).1.head? (swept family b) := by
  have h := next_eq family b.channel.buffer
  unfold takeFrame
  rw [h]
  rfl

def buffered (chunk : Bytes) (b : Bench σ δ) : Bench σ δ :=
  { b with channel := { b.channel with buffer := b.channel.buffer.extend chunk } }

/-- The last part of an exchange: the answer is remembered and opened. -/
def answered [Codec δ] (frame : Bytes) : Act σ δ Answer := do
  Act.onChannel fun c => { c with last := { c.last with answer := frame } }
  Act.ofCoding (Codec.decode frame)

theorem answered_run [Codec δ] (frame : Bytes) (b : Bench σ δ) :
    outcome (answered frame b) = (outcome (Codec.decode frame b.driver)).mapError .frame ∧
      (after (answered frame b)).driver = after (Codec.decode frame b.driver) ∧
      (after (answered frame b)).channel.last = { b.channel.last with answer := frame } := by
  change outcome (ofCoding (Codec.decode frame) _) = _ ∧
    (after (ofCoding (Codec.decode frame) _)).driver = _ ∧
    (after (ofCoding (Codec.decode frame) _)).channel.last = _
  unfold ofCoding
  dsimp only
  cases (Codec.decode frame b.driver : EStateM.Result FrameError δ Answer) with
  | ok answer d => exact ⟨rfl, rfl, rfl⟩
  | error e d => exact ⟨rfl, rfl, rfl⟩

variable [Link σ] {family : Family} {deadline fuel : Nat} {b : Bench σ δ}

theorem collect_found {frame : Bytes} {more : List Bytes}
    (hfound : (frames b.channel.buffer.capacity family b.channel.buffer.data).1 = frame :: more) :
    collect family deadline (fuel + 1) b = .ok (some frame) (swept family b) := by
  have htake := takeFrame_run family b
  rw [hfound] at htake
  unfold collect
  rw [bind_ok htake]
  rfl

theorem collect_late
    (hfound : (frames b.channel.buffer.capacity family b.channel.buffer.data).1 = [])
    (hlate : deadline ≤ b.world.clock) :
    collect family deadline (fuel + 1) b = .ok none (swept family b) := by
  have htake := takeFrame_run family b
  have hnow : Act.now (swept family b) = .ok b.world.clock (swept family b) := rfl
  rw [hfound] at htake
  unfold collect
  rw [bind_ok htake]
  dsimp only [List.head?_nil]
  rw [bind_ok hnow, if_pos hlate]
  rfl

/-- A round without a frame goes on with what the link brings. -/
theorem collect_round {chunk : Bytes}
    (hfound : (frames b.channel.buffer.capacity family b.channel.buffer.data).1 = [])
    (hearly : b.world.clock < deadline)
    (hbrings : (Link.receive b.world.clock deadline b.channel.link).result = .ok chunk) :
    collect family deadline (fuel + 1) b =
      let b' := linked (fun now => Link.receive now deadline) (swept family b)
      if chunk.isEmpty then .ok none b' else collect family deadline fuel (buffered chunk b') := by
  have htake := takeFrame_run family b
  have hnow : Act.now (swept family b) = .ok b.world.clock (swept family b) := rfl
  have hreceive : ofLink (fun now => Link.receive now deadline) (swept family b) = .ok chunk _ :=
    ofLink_ok hbrings
  rw [hfound] at htake
  conv_lhs => unfold collect
  rw [bind_ok htake]
  dsimp only [List.head?_nil]
  rw [bind_ok hnow, if_neg (Nat.not_le.mpr hearly), bind_ok hreceive]
  split <;> rfl

theorem collect_chunk {chunk : Bytes}
    (hfound : (frames b.channel.buffer.capacity family b.channel.buffer.data).1 = [])
    (hsome : chunk ≠ []) (hearly : b.world.clock < deadline)
    (hbrings : (Link.receive b.world.clock deadline b.channel.link).result = .ok chunk) :
    collect family deadline (fuel + 1) b = collect family deadline fuel
      (buffered chunk (linked (fun now => Link.receive now deadline) (swept family b))) := by
  rw [collect_round hfound hearly hbrings, List.isEmpty_eq_false_iff.mpr hsome,
    if_neg Bool.false_ne_true]

omit [Link σ] in
/-- A chunk that fits comes after what the look for a frame has left. -/
theorem buffered_fits (family : Family) (b : Bench σ δ) (chunk : Bytes)
    (op : Nat → σ → Outcome σ α)
    (hfit : b.channel.buffer.data.length + chunk.length ≤ b.channel.buffer.capacity) :
    (buffered chunk (linked op (swept family b))).channel.buffer = { b.channel.buffer with
      data := (take b.channel.buffer.capacity family b.channel.buffer.data).2 ++ chunk } := by
  have hswept := take_left_length b.channel.buffer.capacity family b.channel.buffer.data
  have hroom : (swept family b).channel.buffer.data.length + chunk.length ≤
      (swept family b).channel.buffer.capacity := by
    change (take _ family _).2.length + _ ≤ b.channel.buffer.capacity
    omega
  exact extend_fits (swept family b).channel.buffer chunk hroom

/-- What `collect` finds among buffered bytes and the chunks to come is what a search of all of them
finds first, and without a frame it leaves what that search leaves. -/
theorem collect_delivered (hp : family ≠ .promag) {now capacity : Nat} {link : σ}
    {chunks found : List Bytes} {left : Bytes} (hdelivers : Delivers deadline now link chunks)
    (hnow : b.world.clock = now) (hlink : b.channel.link = link)
    (hcapacity : b.channel.buffer.capacity = capacity) (hfuel : chunks.length < fuel)
    (hfit : b.channel.buffer.data.length + chunks.flatten.length ≤ capacity)
    (hall : frames capacity family (b.channel.buffer.data ++ chunks.flatten) = (found, left)) :
    ∃ t, collect family deadline fuel b = .ok found.head? t ∧ t.driver = b.driver ∧
      t.channel.last = b.channel.last ∧ (found = [] → t.channel.buffer.data = left) := by
  induction hdelivers generalizing fuel b with
  | done hsilent =>
    subst hnow hlink hcapacity
    obtain ⟨fuel, rfl⟩ : ∃ n, fuel = n + 1 := ⟨fuel - 1, by omega⟩
    rw [List.flatten_nil, List.append_nil] at hall
    have hfound : (frames b.channel.buffer.capacity family b.channel.buffer.data).1 = found := by
      rw [hall]
    cases found with
    | cons frame more => exact ⟨swept family b, collect_found hfound, rfl, rfl, by simp⟩
    | nil =>
      have hleft := left_of_none family _ _ hfound
      rw [hall] at hleft
      by_cases hlate : deadline ≤ b.world.clock
      · exact ⟨_, collect_late hfound hlate, rfl, rfl, fun _ => hleft.symm⟩
      · have hearly := Nat.lt_of_not_le hlate
        exact ⟨_, collect_round hfound hearly (hsilent hearly), rfl, rfl, fun _ => hleft.symm⟩
  | chunk hsome hbrings hearly hrest ih =>
    rename_i now link chunk chunks
    subst hnow hlink hcapacity
    obtain ⟨fuel, rfl⟩ : ∃ n, fuel = n + 1 := ⟨fuel - 1, by omega⟩
    rw [List.length_cons] at hfuel
    rw [List.flatten_cons] at hall hfit
    rw [List.length_append] at hfit
    cases hfound : (frames b.channel.buffer.capacity family b.channel.buffer.data).1 with
    | cons frame more =>
      -- A frame that is there already is found at once, whatever follows it.
      rw [frames_append family hp, hfound] at hall
      obtain ⟨rfl, -⟩ := Prod.mk.inj hall
      exact ⟨swept family b, collect_found hfound, rfl, rfl, by simp⟩
    | nil =>
      have hswept := take_left_length b.channel.buffer.capacity family b.channel.buffer.data
      have hkept := buffered_fits family b chunk (fun now => Link.receive now deadline) (by omega)
      rw [frames_none family hp _ _ _ hfound, ← List.append_assoc] at hall
      rw [collect_chunk hfound hsome (by omega) hbrings]
      refine ih rfl rfl ?_ (by omega) ?_ ?_
      · rw [hkept]
      · rw [hkept]
        change (_ ++ chunk).length + _ ≤ _
        rw [List.length_append]
        omega
      · rw [hkept]
        exact hall

/-- A wait ends with the frame that settles among the chunks, whatever the link would bring then. -/
theorem collect_settled {chunks : List Bytes} {frame : Bytes}
    (hsettles : Settles b.channel.buffer.capacity family frame b.channel.buffer.data chunks)
    (hbrings : Brings deadline b.world.clock b.channel.link chunks) (hfuel : chunks.length < fuel)
    (hfit : b.channel.buffer.data.length + chunks.flatten.length ≤ b.channel.buffer.capacity) :
    ∃ t, collect family deadline fuel b = .ok (some frame) t ∧ t.driver = b.driver ∧
      t.channel.last = b.channel.last := by
  induction chunks generalizing fuel b with
  | nil =>
    obtain ⟨fuel, rfl⟩ : ∃ n, fuel = n + 1 := ⟨fuel - 1, by omega⟩
    cases hsettles with
    | here htaken =>
      have hfound := frames_take b.channel.buffer.capacity family b.channel.buffer.data
      rw [htaken] at hfound
      exact ⟨swept family b, collect_found (congrArg Prod.fst hfound), rfl, rfl⟩
  | cons chunk chunks ih =>
    obtain ⟨fuel, rfl⟩ : ∃ n, fuel = n + 1 := ⟨fuel - 1, by omega⟩
    have hfound := frames_take b.channel.buffer.capacity family b.channel.buffer.data
    cases hsettles with
    | here htaken =>
      rw [htaken] at hfound
      exact ⟨swept family b, collect_found (congrArg Prod.fst hfound), rfl, rfl⟩
    | later hwaits hrest =>
      rw [hwaits] at hfound
      cases hbrings with
      | chunk hsome hbrings hearly hmore =>
        rw [List.flatten_cons, List.length_append] at hfit
        rw [List.length_cons] at hfuel
        have hkept := buffered_fits family b chunk (fun now => Link.receive now deadline)
          (by omega)
        rw [hwaits] at hkept
        dsimp only at hkept
        rw [collect_chunk (congrArg Prod.fst hfound) hsome (by omega) hbrings]
        refine ih ?_ hmore (by omega) ?_
        · rw [hkept]
          exact hrest
        · rw [hkept]
          change (_ ++ chunk).length + _ ≤ b.channel.buffer.capacity
          rw [List.length_append]
          omega

/-- What a wait of `limit` comes to when a search of all that arrives finds `found` and leaves
`left`. -/
def verdict (limit : Nat) : List Bytes → Bytes → Except ReaderError Bytes
  | frame :: _, _ => .ok frame
  | [], [] => .error (.timeout limit)
  | [], left => .error (.frame (.truncated left.length))

/-- A wait comes to what a search of all chunks together comes to. -/
theorem receiveFrame_delivered (hp : family ≠ .promag) {chunks found : List Bytes} {left : Bytes}
    (hempty : b.channel.buffer.data = [])
    (hdelivers : Delivers deadline b.world.clock b.channel.link chunks)
    (hfit : chunks.flatten.length ≤ b.channel.buffer.capacity)
    (hall : frames b.channel.buffer.capacity family chunks.flatten = (found, left)) :
    let out := receiveFrame family deadline b
    outcome out = verdict (deadline - b.world.clock) found left ∧ (after out).driver = b.driver ∧
      (after out).channel.last = b.channel.last := by
  intro out
  have hfuel : chunks.length < Link.backlog b.channel.link + 1 :=
    Nat.lt_succ_of_le hdelivers.length_le
  rw [← List.nil_append chunks.flatten, ← hempty] at hall
  obtain ⟨t, ht, hdriver, hlast, hleft⟩ := collect_delivered hp hdelivers rfl rfl rfl hfuel
    (by rw [hempty, List.length_nil]; omega) hall
  have hnow : Act.now b = .ok b.world.clock b := rfl
  have hout : out = receiveFrame family deadline b := rfl
  unfold receiveFrame at hout
  rw [bind_ok hnow, get_bind_run, bind_ok ht] at hout
  cases found with
  | cons frame more =>
    rw [hout]
    exact ⟨rfl, hdriver, hlast⟩
  | nil =>
    dsimp only [List.head?_nil] at hout
    rw [get_bind_run, hleft rfl] at hout
    rw [hout]
    cases left with
    | nil => exact ⟨rfl, hdriver, hlast⟩
    | cons a rest => exact ⟨rfl, hdriver, hlast⟩

variable [Codec δ] {command raw : Bytes} {d : δ}

/-- A command that is framed and written leaves the buffer alone. -/
theorem transmit_ok (hopen : b.channel.isConnected)
    (hframed : Codec.encode command b.driver = .ok raw d)
    (hwritten : (Link.send b.world.clock raw b.channel.link).result = .ok ()) :
    ∃ t, transmit command b = .ok () t ∧ t.driver = d ∧
      t.world.clock = b.world.clock + (Link.send b.world.clock raw b.channel.link).elapsed ∧
      t.channel = { b.channel with
        link := (Link.send b.world.clock raw b.channel.link).link, last := ⟨raw, []⟩ } := by
  have hcode : ofCoding (Codec.encode command) b = .ok raw { b with driver := d } := by
    rw [ofCoding, hframed]
  let b' : Bench σ δ :=
    { b with driver := d, world := b.world.note (.sent raw b.world.isQuiet) }
  have hsend : ofLink (fun now => Link.send now raw) b' =
      .ok () (linked (fun now => Link.send now raw) b') := ofLink_ok hwritten
  have hwrite : write raw { b with driver := d } =
      .ok () (linked (fun now => Link.send now raw) b') := by
    unfold write
    rw [get_bind_run, if_pos hopen]
    exact hsend
  unfold transmit
  rw [bind_ok hcode, bind_ok hwrite]
  exact ⟨_, rfl, rfl, rfl, rfl⟩

theorem send_transmitted {t : Bench σ δ} (hopen : b.channel.isConnected)
    (ht : transmit command (cleared b) = .ok () t) :
    send command b = (receiveFrame (Codec.family t.driver) (t.world.clock + b.channel.timeout) >>=
      answered) t := by
  have hclear : Act.onChannel (fun c => { c with buffer := c.buffer.clear }) b =
      .ok () (cleared b) := rfl
  have hnow : Act.now t = .ok t.world.clock t := rfl
  change sendWithin b.channel.timeout command b = _
  unfold sendWithin
  rw [get_bind_run, if_neg (not_not_intro hopen)]
  change (Act.onChannel _ >>= _) b = _
  rw [bind_ok hclear, bind_ok ht, get_bind_run, bind_ok hnow]
  rfl

/-- What a command comes to is what all the bytes that arrive after it come to when they are taken
at once: the first frame in them is opened, and without one they are missing or cut. -/
theorem send_delivered {chunks : List Bytes} (hopen : b.channel.isConnected)
    (hcapacity : b.channel.buffer.capacity = defaultCapacity)
    (hframed : Codec.encode command b.driver = .ok raw d) (hfamily : Codec.family d ≠ .promag)
    (hwritten : (Link.send b.world.clock raw b.channel.link).result = .ok ())
    (hdelivers :
      let sent := Link.send b.world.clock raw b.channel.link
      Delivers (b.world.clock + sent.elapsed + b.channel.timeout) (b.world.clock + sent.elapsed)
        sent.link chunks)
    (hfit : chunks.flatten.length ≤ defaultCapacity) :
    let drained := ((empty defaultCapacity).extend chunks.flatten).drain (Codec.family d)
    let out := send command b
    match drained.1 with
    | frame :: _ =>
      outcome out = (outcome (Codec.decode frame d)).mapError .frame ∧
        (after out).driver = after (Codec.decode frame d) ∧
        (after out).channel.last = ⟨raw, frame⟩
    | [] =>
      outcome out = .error (if drained.2.data = [] then .timeout b.channel.timeout
        else .frame (.truncated drained.2.data.length)) ∧
        (after out).driver = d ∧ (after out).channel.last = ⟨raw, []⟩ := by
  intro drained out
  -- What was held before is dropped first, so the search starts with the chunks.
  obtain ⟨t, ht, hdriver, hclock, hchannel⟩ := transmit_ok (b := cleared b) hopen hframed hwritten
  have hout : out = _ := send_transmitted hopen ht
  have hbuffer : t.channel.buffer = empty defaultCapacity := by
    rw [hchannel, ← hcapacity]
    rfl
  have hextended : (empty defaultCapacity).extend chunks.flatten =
      ⟨chunks.flatten, defaultCapacity⟩ :=
    extend_fits (empty defaultCapacity) _ (Nat.le_trans (Nat.le_of_eq (Nat.zero_add _)) hfit)
  rcases hall : frames defaultCapacity (Codec.family d) chunks.flatten with ⟨found, left⟩
  have hdrained : drained = (found, ⟨left, defaultCapacity⟩) := by
    have hsearch : drain (Codec.family d) ⟨chunks.flatten, defaultCapacity⟩ =
        ((frames defaultCapacity (Codec.family d) chunks.flatten).1,
          ⟨(frames defaultCapacity (Codec.family d) chunks.flatten).2, defaultCapacity⟩) :=
      drain_frames _ _
    rw [hall] at hsearch
    rw [← hsearch, ← hextended]
  have harrives :
      Delivers (t.world.clock + b.channel.timeout) t.world.clock t.channel.link chunks := by
    rw [hclock, hchannel]
    exact hdelivers
  have harrived : frames t.channel.buffer.capacity (Codec.family d) chunks.flatten =
      (found, left) := by
    rw [hbuffer]
    exact hall
  obtain ⟨houtcome, hkept, hlast⟩ := receiveFrame_delivered hfamily (by rw [hbuffer]; rfl) harrives
    (by rw [hbuffer]; exact hfit) harrived
  rw [Nat.add_sub_cancel_left] at houtcome
  rw [hdriver] at hout hkept
  rw [hchannel] at hlast
  rw [hdrained]
  cases found with
  | cons frame more =>
    obtain ⟨h, h', h''⟩ := answered_run frame (after (receiveFrame (Codec.family d)
      (t.world.clock + b.channel.timeout) t))
    rw [hkept] at h h'
    rw [hlast] at h''
    rw [hout, bind_outcome_ok houtcome]
    exact ⟨h, h', h''⟩
  | nil =>
    cases left with
    | nil =>
      rw [hout, bind_outcome_error houtcome]
      exact ⟨rfl, hkept, hlast⟩
    | cons a rest =>
      rw [hout, bind_outcome_error houtcome]
      exact ⟨rfl, hkept, hlast⟩

/-- A command is answered by the frame that settles first among the chunks after it. -/
theorem send_settled {chunks : List Bytes} {frame : Bytes} (hopen : b.channel.isConnected)
    (hframed : Codec.encode command b.driver = .ok raw d)
    (hwritten : (Link.send b.world.clock raw b.channel.link).result = .ok ())
    (hbrings :
      let sent := Link.send b.world.clock raw b.channel.link
      Brings (b.world.clock + sent.elapsed + b.channel.timeout) (b.world.clock + sent.elapsed)
        sent.link chunks)
    (hfit : chunks.flatten.length ≤ b.channel.buffer.capacity)
    (hsettles : Settles b.channel.buffer.capacity (Codec.family d) frame [] chunks) :
    outcome (send command b) = (outcome (Codec.decode frame d)).mapError .frame := by
  obtain ⟨t, ht, rfl, hclock, hchannel⟩ := transmit_ok (b := cleared b) hopen hframed hwritten
  have hbuffer : t.channel.buffer = b.channel.buffer.clear := by
    rw [hchannel]
    rfl
  have harrives :
      Brings (t.world.clock + b.channel.timeout) t.world.clock t.channel.link chunks := by
    rw [hclock, hchannel]
    exact hbrings
  have hsettled : Settles t.channel.buffer.capacity (Codec.family t.driver) frame
      t.channel.buffer.data chunks := by
    rw [hbuffer]
    exact hsettles
  have hroom : t.channel.buffer.data.length + chunks.flatten.length ≤
      t.channel.buffer.capacity := by
    rw [hbuffer]
    exact Nat.le_trans (Nat.le_of_eq (Nat.zero_add _)) hfit
  obtain ⟨u, hu, hdriver, -⟩ :=
    collect_settled hsettled harrives (Nat.lt_succ_of_le harrives.length_le) hroom
  have hnow : Act.now t = .ok t.world.clock t := rfl
  have hreceived : receiveFrame (Codec.family t.driver) (t.world.clock + b.channel.timeout) t =
      .ok frame u := by
    unfold receiveFrame
    rw [bind_ok hnow, get_bind_run, bind_ok hu]
    rfl
  rw [send_transmitted hopen ht, bind_ok hreceived, (answered_run frame u).1, hdriver]

/-- A link whose device answers the next command in three chunks. -/
def piecemeal : ScriptedLink where
  name := "box"
  reactions := [.deliver [(3, .chunk [0x00, 0x01]), (3, .chunk [0x03, 0x02, 0xAA]),
    (9, .chunk [0xBB, 0x11])]]
  connected := true

/-- Two bytes are left over from before when the command is sent. -/
theorem send_delivered_piecemeal :
    let b : Bench ScriptedLink Rpleth.Framer :=
      ⟨{ clock := 5 }, ⟨piecemeal, ⟨[0x01, 0x04], FrameBuffer.defaultCapacity⟩, 100, {}⟩, {}⟩
    let command : Bytes := [0x01, 0x03, 0x00]
    let sent := Link.send 5 [0x01, 0x03, 0x00, 0x02] piecemeal
    let chunks : List Bytes := [[0x00, 0x01], [0x03, 0x02, 0xAA], [0xBB, 0x11]]
    b.channel.isConnected ∧
    Codec.encode command b.driver = .ok [0x01, 0x03, 0x00, 0x02] ⟨some (0x01, 0x03)⟩ ∧
    sent.result = .ok () ∧ Delivers 105 5 sent.link chunks ∧
    outcome (send command b) = .ok ⟨[0xAA, 0xBB], 0⟩ ∧
    (after (send command b)).channel.last =
      ⟨[0x01, 0x03, 0x00, 0x02], [0x00, 0x01, 0x03, 0x02, 0xAA, 0xBB, 0x11]⟩ := by
  intro b command sent chunks
  have hopen : b.channel.isConnected := rfl
  have hframed : Codec.encode command b.driver =
      .ok [0x01, 0x03, 0x00, 0x02] ⟨some (0x01, 0x03)⟩ := by rfl
  have hwritten : sent.result = .ok () := rfl
  have hdelivers : Delivers 105 5 sent.link chunks := by
    refine .chunk (by decide) rfl (by decide) ?_
    refine .chunk (by decide) rfl (by decide) ?_
    refine .chunk (by decide) rfl (by decide) ?_
    exact .done fun _ => rfl
  have hdrained : (((empty defaultCapacity).extend chunks.flatten).drain .rpleth).1 =
      [[0x00, 0x01, 0x03, 0x02, 0xAA, 0xBB, 0x11]] := by
    rw [extend_fits _ _ (by decide), drain_frames,
      frames_frame .rpleth (by decide) _ _ 7 (by decide),
      frames_incomplete .rpleth (by decide) _ _ (by decide)]
    rfl
  have h := send_delivered hopen rfl hframed (by decide) hwritten hdelivers (by decide)
  change match (((empty defaultCapacity).extend chunks.flatten).drain .rpleth).1 with
    | frame :: _ => _
    | [] => _ at h
  rw [hdrained] at h
  obtain ⟨houtcome, -, hlast⟩ := h
  exact ⟨hopen, hframed, hwritten, hdelivers, houtcome, hlast⟩

end Channel

end CardReader
