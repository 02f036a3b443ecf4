import CardReader.Proofs.Bystander
import CardReader.Proofs.Failures
import CardReader.Proofs.Reader.Operation

namespace CardReader

open Run Act Bench

variable {σ δ α : Type}

/-- The name of a link never changes. -/
structure Link.Named (σ : Type) [Link σ] : Prop where
  connect : ∀ now (s : σ), Link.name (Link.connect now s).link = Link.name s
  disconnect : ∀ now (s : σ), Link.name (Link.disconnect now s).link = Link.name s
  send : ∀ now data (s : σ), Link.name (Link.send now data s).link = Link.name s
  receive : ∀ now deadline (s : σ), Link.name (Link.receive now deadline s).link = Link.name s

namespace Endpoint

def isFound : Endpoint → Bool
  | .serial none _ => true
  | _ => false

/-- The port that a reader has in use at the endpoint, by the name of its channel if it has one. -/
def lease : Endpoint → Option String → Option String
  | .serial none _, name => name
  | .serial (some port) _, _ => some port
  | .tcp _ _, _ => none

theorem lease_of_isFound {e : Endpoint} (h : e.isFound) (name : Option String) :
    e.lease name = name := by
  cases e with
  | tcp host port => contradiction
  | serial port baud =>
    cases port with
    | none => rfl
    | some port => contradiction

end Endpoint

section

variable [Link σ]

/-- No port was taken or given back, and the channel is of the same name. -/
structure Bench.Local (b b' : Bench σ δ) : Prop where
  ports_eq : b'.world.ports = b.world.ports
  name_eq : b'.channel.name = b.channel.name

namespace Bench

theorem closed_local : Closed (Local (σ := σ) (δ := δ)) where
  refl _ := ⟨rfl, rfl⟩
  trans h h' := ⟨h'.ports_eq.trans h.ports_eq, h'.name_eq.trans h.name_eq⟩

theorem ofLink_local {op : Nat → σ → Outcome σ α}
    (hop : ∀ now s, Link.name (op now s).link = Link.name s) :
    Keeps Local (ofLink (δ := δ) op) := by
  intro b
  rw [after_ofLink]
  exact ⟨rfl, hop b.world.clock b.channel.link⟩

variable (hσ : Link.Named σ)
include hσ

theorem bystander_local : Bystander (Local (σ := σ) (δ := Unit)) where
  toClosed := closed_local
  receive deadline := ofLink_local fun now s => hσ.receive now deadline s
  onBuffer _ _ := ⟨rfl, rfl⟩
  onLast _ _ := ⟨rfl, rfl⟩
  send data := ofLink_local fun now s => hσ.send now data s
  noted _ _ _ := ⟨rfl, rfl⟩
  later _ _ := ⟨rfl, rfl⟩

theorem openLink_local : Keeps Local (Channel.openLink : Act σ δ Unit) := by
  have hC := closed_local (σ := σ) (δ := δ)
  unfold Channel.openLink
  refine Keeps.bind hC (Keeps.change fun b => ⟨rfl, rfl⟩) fun _ => ?_
  refine Keeps.bind hC (Keeps.get hC) fun b => ?_
  refine Keeps.bind hC (Keeps.change fun b => ⟨rfl, rfl⟩) fun _ => ?_
  exact ofLink_local hσ.connect

theorem close_local : Keeps Local (Channel.close : Act σ δ Unit) := by
  have hC := closed_local (σ := σ) (δ := δ)
  unfold Channel.close
  refine Keeps.bind hC (Keeps.change fun b => ⟨rfl, rfl⟩) fun _ => ?_
  refine Keeps.bind hC (Keeps.get hC) fun b => ?_
  refine Keeps.ite ?_ (Keeps.pure hC _)
  refine Keeps.bind hC (Keeps.change fun b => ⟨rfl, rfl⟩) fun _ => ?_
  exact ofLink_local hσ.disconnect

end Bench

/-- A failure that does not tell of a port that is in use. -/
def ReaderError.Free (e : ReaderError) : Prop := ∀ port, e ≠ .portInUse port

theorem ReaderError.ordinary_free : ReaderError.Ordinary ReaderError.Free where
  frame _ _ := nofun
  link _ _ := nofun
  timeout _ _ := nofun
  notConnected _ := nofun
  badState _ _ := nofun
  badResponse _ _ := nofun

/-- A driver that leaves the ports in use and the name of its channel alone. -/
structure Driver.Local (σ δ : Type) [Link σ] [Driver δ] : Prop where
  probe : Keeps Bench.Local (Driver.probe : Act σ δ Bool)
  configure : Keeps Bench.Local (Driver.configure : Act σ δ Unit)
  chipInAir : Keeps Bench.Local (Driver.chipInAir : Act σ δ (Option Chip))
  release : Keeps Bench.Local (Driver.release : Act σ δ Unit)
  configure_free : Fails ReaderError.Free (Driver.configure : Act σ δ Unit)

theorem Bench.Local.of_aside {b b' : Bench σ δ} (h : Aside Local b b') : Local b b' :=
  ⟨h.ports_eq, h.name_eq⟩

theorem AnyDevice.local (hσ : Link.Named σ) : Driver.Local σ AnyDevice where
  probe b := .of_aside (probe_aside (bystander_local hσ) b)
  configure b := .of_aside (configure_aside (bystander_local hσ) b)
  chipInAir b := .of_aside (chipInAir_aside (bystander_local hσ) b)
  release b := .of_aside (release_aside (bystander_local hσ) b)
  configure_free := configure_fails ReaderError.ordinary_free

namespace Detection

variable [Driver δ] (hσ : Link.Named σ) (hδ : Driver.Local σ δ)
include hσ hδ

/-- A search opens and closes links, and leaves the ports in use alone. -/
theorem search_ports (timeout : Nat) (candidates : List (Nat → σ)) (w : World) (d : δ) :
    (search timeout candidates w d).2.1.ports = w.ports := by
  have hC := closed_local (σ := σ) (δ := δ)
  have hopen : Keeps Local (openProbe : Act σ δ Bool) :=
    Keeps.bind hC (openLink_local hσ) fun _ => hδ.probe
  induction candidates generalizing w d with
  | nil => rfl
  | cons make rest ih =>
    have hprobed := hopen ⟨w, Channel.onLink (make w.clock) timeout, d⟩
    rw [← Reader.answers_after] at hprobed
    unfold search
    generalize answers ⟨w, Channel.onLink (make w.clock) timeout, d⟩ = answer at hprobed
    obtain ⟨found, b⟩ := answer
    cases found with
    | true => exact hprobed.ports_eq
    | false =>
      have hclosed := close_local hσ b
      rw [← Reader.closed_after] at hclosed
      have hrest := ih (closed b).world (closed b).driver
      exact hrest.trans (hclosed.ports_eq.trans hprobed.ports_eq)

theorem run_ports (timeout : Nat) (scanner : Scanner σ) (w : World) (d : δ) :
    (run timeout scanner w d).world.ports = w.ports := by
  unfold run
  cases scanner.find scanner.looks with
  | error e => rfl
  | ok candidates => exact search_ports hσ hδ timeout candidates (w.note .scanned) d

end Detection

namespace Station

/-- No port was taken or given back, and the reader has the port and the channel that it had. -/
structure Local (s t : Station σ δ) : Prop where
  ports_eq : t.world.ports = s.world.ports
  lease_eq : t.reader.lease = s.reader.lease
  name_eq : t.reader.name = s.reader.name
  scanner_eq : t.reader.scanner.isSome = s.reader.scanner.isSome
  shares_eq : t.reader.sharesPorts = s.reader.sharesPorts

theorem closed_local : Closed (Local (σ := σ) (δ := δ)) where
  refl _ := ⟨rfl, rfl, rfl, rfl, rfl⟩
  trans h h' := ⟨h'.ports_eq.trans h.ports_eq, h'.lease_eq.trans h.lease_eq,
    h'.name_eq.trans h.name_eq, h'.scanner_eq.trans h.scanner_eq, h'.shares_eq.trans h.shares_eq⟩

theorem waitable_local : Reader.Waitable (Local (σ := σ) (δ := δ)) where
  toClosed := closed_local
  aside _ _ _ _ _ := ⟨rfl, rfl, rfl, rfl, rfl⟩
  cards _ _ _ := ⟨rfl, rfl, rfl, rfl, rfl⟩

omit [Link σ] in
/-- The ports in use are that of the reader and those of others, each one once. -/
structure Shared (others : List String) (s : Station σ δ) : Prop where
  perm : s.world.ports.Perm (s.reader.lease.toList ++ others)
  nodup : s.world.ports.Nodup

end Station

/-- A reader has the port in use that its endpoint and its channel say. -/
structure Reader.Entitled (e : Endpoint) (r : Reader σ δ) : Prop where
  lease_eq : r.lease = e.lease r.name
  scanner_eq : r.scanner.isSome = e.isFound
  shares : r.sharesPorts

namespace Station

/-- Others have the ports in use that they had, and the reader has the one that it should have. -/
structure Honours (s t : Station σ δ) : Prop where
  shared : ∀ others, Shared others s → Shared others t
  entitled : ∀ e, s.reader.Entitled e → t.reader.Entitled e

theorem closed_honours : Closed (Honours (σ := σ) (δ := δ)) where
  refl _ := ⟨fun _ => id, fun _ => id⟩
  trans h h' := ⟨fun others hs => h'.shared others (h.shared others hs),
    fun e hs => h'.entitled e (h.entitled e hs)⟩

theorem Local.honours {s t : Station σ δ} (h : Local s t) : Honours s t where
  shared others hs := by
    refine ⟨?_, ?_⟩
    · rw [h.ports_eq, h.lease_eq]
      exact hs.perm
    · rw [h.ports_eq]
      exact hs.nodup
  entitled e hs := by
    refine ⟨?_, h.scanner_eq.trans hs.scanner_eq, h.shares_eq.trans hs.shares⟩
    rw [h.lease_eq, h.name_eq]
    exact hs.lease_eq

omit [Link σ] in
/-- Giving back a port that is in use leaves those of others. -/
theorem Shared.vacated {others : List String} {s : Station σ δ} (h : Shared others s) :
    Shared others s.vacated := by
  rw [vacated_eq]
  cases hlease : s.reader.lease with
  | none =>
    have hperm := h.perm
    rw [hlease] at hperm
    exact ⟨hperm, h.nodup⟩
  | some port =>
    have hperm := h.perm
    rw [hlease] at hperm
    have hrest : (s.world.ports.erase port).Perm ((port :: others).erase port) :=
      hperm.erase port
    rw [List.erase_cons_head] at hrest
    exact ⟨hrest, h.nodup.erase port⟩

theorem forget_honours (s : Station σ δ) : Honours s s.forget := by
  by_cases hscanner : s.reader.scanner.isSome
  · constructor
    · intro others hs
      have hdropped : Shared others (s.onReader ({ · with channel := none })) := ⟨hs.perm, hs.nodup⟩
      unfold forget
      rw [if_pos hscanner]
      exact hdropped.vacated
    · intro e hs
      have hfound : e.isFound := hs.scanner_eq ▸ hscanner
      rw [forget_found hscanner]
      refine ⟨?_, hs.scanner_eq, hs.shares⟩
      rw [Endpoint.lease_of_isFound hfound]
      rfl
  · rw [forget_given hscanner]
    exact closed_honours.refl s

end Station

namespace Reader

open Station

theorem atChannel_local {act : Act σ δ α} (h : Keeps Bench.Local act) {c : Channel σ}
    {s : Station σ δ} (hc : s.reader.channel = some c) :
    Station.Local s (after (atChannel c act s)) := by
  obtain ⟨hports, hname⟩ := h ⟨s.world, c, s.reader.driver⟩
  rw [after_atChannel]
  refine ⟨hports, rfl, ?_, rfl, rfl⟩
  unfold name
  rw [hc]
  exact congrArg some hname

theorem quietly_local {act : Act σ δ Unit} (h : Keeps Bench.Local act) (s : Station σ δ) :
    Station.Local s (quietly act s) := by
  cases hc : s.reader.channel with
  | none =>
    unfold quietly
    rw [hc]
    exact Station.closed_local.refl s
  | some c =>
    rw [quietly_some hc]
    exact atChannel_local h hc

theorem use_local {act : Act σ δ α} (h : Keeps Bench.Local act) :
    Keeps Station.Local (use act) := by
  intro s
  unfold use
  cases hc : s.reader.channel with
  | none => exact Station.closed_local.refl s
  | some c =>
    dsimp only
    by_cases hs : s.reader.isConnected
    · rw [if_pos hs]
      exact atChannel_local h hc
    · rw [if_neg hs]
      exact Station.closed_local.refl s

theorem endSession_local {act : Act σ δ Unit} (h : Keeps Bench.Local act) :
    Keeps Station.Local (endSession act) :=
  Keeps.bind Station.closed_local (use_local h) fun _ =>
    Keeps.change fun _ => ⟨rfl, rfl, rfl, rfl, rfl⟩

omit [Link σ] in
/-- A port is taken into use only when it is free; then the one before is given back. -/
theorem claim_ok {s t : Station σ δ} {port : String} (h : claim port s = .ok () t) :
    port ∉ s.world.ports ∧
      t.world.ports = s.reader.lease.elim (port :: s.world.ports) (port :: s.world.ports).erase ∧
      t.reader = { s.reader with lease := some port } := by
  unfold Reader.claim World.claim? at h
  by_cases hused : s.world.ports.contains port
  · rw [if_pos hused] at h
    contradiction
  · have hfree : port ∉ s.world.ports := fun hmem => hused (List.contains_iff_mem.mpr hmem)
    rw [if_neg hused] at h
    injection h with _ ht
    rw [← ht, vacated_eq]
    exact ⟨hfree, rfl, rfl⟩

omit [Link σ] in
/-- The port claimed was not in use, and the one before it is given back. -/
theorem claim_shared {others : List String} {s t : Station σ δ} {port : String}
    (hs : Shared others s) (h : claim port s = .ok () t) : Shared others t := by
  obtain ⟨hfree, hports, hreader⟩ := claim_ok h
  have hperm := hs.perm
  cases hlease : s.reader.lease with
  | none =>
    rw [hlease] at hperm hports
    refine ⟨?_, ?_⟩
    · rw [hports, hreader]
      exact hperm.cons port
    · rw [hports]
      exact List.nodup_cons.mpr ⟨hfree, hs.nodup⟩
  | some old =>
    have hold : old ∈ s.world.ports := by
      rw [hlease] at hperm
      exact hperm.mem_iff.mpr List.mem_cons_self
    have hne : port ≠ old := fun heq => hfree (heq ▸ hold)
    have hkept : t.world.ports = port :: s.world.ports.erase old := by
      rw [hports, hlease]
      exact List.erase_cons_tail (by simpa using hne)
    have hrest : (s.world.ports.erase old).Perm others := by
      have herased := hperm.erase old
      rw [hlease] at herased
      change (s.world.ports.erase old).Perm ((old :: others).erase old) at herased
      rw [List.erase_cons_head] at herased
      exact herased
    refine ⟨?_, ?_⟩
    · rw [hkept, hreader]
      exact hrest.cons port
    · rw [hkept]
      exact List.nodup_cons.mpr ⟨fun hmem => hfree (List.mem_of_mem_erase hmem), hs.nodup.erase old⟩

variable (hσ : Link.Named σ)
include hσ

/-- A channel that cannot be kept leaves nothing behind. -/
theorem keep_refused {c : Channel σ} {s t : Station σ δ} {e : ReaderError}
    (hnone : s.reader.channel = none) (h : keep c s = .error e t) : Station.Local s t := by
  have hclosed := quietly_local (close_local hσ) (s.onReader ({ · with channel := some c }))
  unfold keep at h
  split at h
  · contradiction
  · split at h
    · contradiction
    · injection h with _ ht
      rw [← ht]
      refine ⟨hclosed.ports_eq, hclosed.lease_eq, ?_, hclosed.scanner_eq, hclosed.shares_eq⟩
      unfold name
      rw [hnone]
      rfl

/-- A channel is kept together with its port. -/
theorem keep_honours {c : Channel σ} {s : Station σ δ} (hnone : s.reader.channel = none)
    (hscanner : s.reader.scanner.isSome) : Honours s (after (keep c s)) := by
  cases hkeep : keep c s with
  | error e t => exact (keep_refused hσ hnone hkeep).honours
  | ok _ t =>
    unfold keep at hkeep
    by_cases hshares : s.reader.sharesPorts
    · rw [if_neg (not_not_intro hshares)] at hkeep
      cases hclaim : claim c.name s with
      | error e u =>
        rw [hclaim] at hkeep
        contradiction
      | ok _ u =>
        rw [hclaim] at hkeep
        injection hkeep with _ ht
        rw [← ht]
        constructor
        · intro others hs
          obtain ⟨hperm, hnodup⟩ := claim_shared hs hclaim
          exact ⟨hperm, hnodup⟩
        · intro e hs
          have hfound : e.isFound := hs.scanner_eq ▸ hscanner
          obtain ⟨-, -, hreader⟩ := claim_ok hclaim
          refine ⟨?_, ?_, ?_⟩
          · change u.reader.lease = e.lease (some c.name)
            rw [hreader, Endpoint.lease_of_isFound hfound]
          · change u.reader.scanner.isSome = _
            rw [hreader]
            exact hs.scanner_eq
          · change u.reader.sharesPorts = true
            rw [hreader]
            exact hs.shares
    · rw [if_pos hshares] at hkeep
      injection hkeep with _ ht
      rw [← ht]
      exact ⟨fun others hs => ⟨hs.perm, hs.nodup⟩, fun e hs => absurd hs.shares hshares⟩

section

variable [Driver δ] (hδ : Driver.Local σ δ)
include hδ

theorem looked_local {scanner : Scanner σ} {s : Station σ δ} (h : s.reader.scanner = some scanner) :
    Station.Local s (looked scanner s) where
  ports_eq := Detection.run_ports hσ hδ _ scanner s.world s.reader.driver
  lease_eq := rfl
  name_eq := rfl
  scanner_eq := by
    rw [h]
    rfl
  shares_eq := rfl

/-- A reader whose port is not found is as before. -/
theorem detect_refused {s t : Station σ δ} {e : ReaderError} (hnone : s.reader.channel = none)
    (h : detect s = .error e t) : Station.Local s t := by
  rw [detect_eq] at h
  split at h
  · injection h with _ ht
    rw [← ht]
    exact Station.closed_local.refl s
  · rename_i scanner hscanner
    have hlooked := looked_local hσ hδ hscanner
    split at h
    · injection h with _ ht
      rw [← ht]
      exact Station.closed_local.refl s
    · split at h
      · injection h with _ ht
        rw [← ht]
        exact hlooked
      · injection h with _ ht
        rw [← ht]
        exact hlooked
      · exact Station.closed_local.trans hlooked (keep_refused hσ hnone h)

theorem detect_honours {s : Station σ δ} (hnone : s.reader.channel = none) :
    Honours s (after (detect s)) := by
  rw [detect_eq]
  split
  · exact closed_honours.refl s
  · rename_i scanner hscanner
    have hlooked := (looked_local hσ hδ hscanner).honours
    split
    · exact closed_honours.refl s
    · split
      · exact hlooked
      · exact hlooked
      · exact closed_honours.trans hlooked (keep_honours hσ hnone rfl)

theorem openChannel_refused {s t : Station σ δ} {e : ReaderError}
    (h : openChannel s = .error e t) : Station.Local s t := by
  unfold openChannel at h
  rw [get_bind_run] at h
  cases hc : s.reader.channel with
  | none =>
    rw [hc] at h
    exact detect_refused hσ hδ hc h
  | some c =>
    have hopened := atChannel_local (openLink_local hσ) hc
    rw [hc] at h
    dsimp only at h
    rw [h] at hopened
    exact hopened

theorem openChannel_honours : Keeps Honours (openChannel : Op σ δ Unit) := by
  intro s
  unfold openChannel
  rw [get_bind_run]
  cases hc : s.reader.channel with
  | none => exact detect_honours hσ hδ hc
  | some c => exact (atChannel_local (openLink_local hσ) hc).honours

omit hσ in
theorem configure_local (timeout : Nat) :
    Keeps Bench.Local (do Channel.setTimeout timeout; Driver.configure : Act σ δ Unit) :=
  Keeps.bind Bench.closed_local (Keeps.change fun _ => ⟨rfl, rfl⟩) fun _ => hδ.configure

theorem start_honours : Keeps Honours (start : Op σ δ Unit) := by
  intro s
  unfold start
  cases hc : s.reader.channel with
  | none => exact closed_honours.refl s
  | some c =>
    have hat := atChannel_local (configure_local hδ s.reader.settings.dataTimeout) hc
    dsimp only
    cases hrun : atChannel c _ s with
    | ok _ t =>
      rw [hrun] at hat
      exact closed_honours.trans hat.honours (Station.Local.honours ⟨rfl, rfl, rfl, rfl, rfl⟩)
    | error e t =>
      rw [hrun] at hat
      have hclosed := quietly_local (close_local hσ) t
      have hforgotten := forget_honours (quietly Channel.close t)
      have hleft := closed_honours.trans (Station.closed_local.trans hat hclosed).honours hforgotten
      exact closed_honours.trans hleft (Station.Local.honours ⟨rfl, rfl, rfl, rfl, rfl⟩)

omit hσ in
theorem start_free : Fails ReaderError.Free (start : Op σ δ Unit) := by
  intro s e t h
  unfold start at h
  split at h
  · injection h with he _
    rw [← he]
    exact ReaderError.ordinary_free.notConnected
  · rename_i c hc
    have hact : Fails ReaderError.Free
        (do Channel.setTimeout s.reader.settings.dataTimeout; Driver.configure : Act σ δ Unit) :=
      Fails.bind (Fails.change _) fun _ => hδ.configure_free
    dsimp only at h
    split at h
    · contradiction
    · rename_i e' u hrun
      injection h with he _
      rw [← he]
      unfold atChannel at hrun
      split at hrun
      · contradiction
      · rename_i e'' b hfailed
        injection hrun with he' _
        rw [← he']
        exact hact _ _ _ hfailed

theorem connect_honours : Keeps Honours (connect : Op σ δ Unit) := by
  intro s
  by_cases hc : s.reader.isConnected
  · rw [connect_connected hc]
    exact closed_honours.refl s
  · rw [connect_apart hc]
    exact Keeps.bind closed_honours (openChannel_honours hσ hδ) (fun _ => start_honours hσ hδ) s

/-- A reader that is refused its port leaves the ports in use as they are. -/
theorem connect_refused {s t : Station σ δ} {port : String}
    (h : connect s = .error (.portInUse port) t) : t.world.ports = s.world.ports := by
  by_cases hc : s.reader.isConnected
  · rw [connect_connected hc] at h
    contradiction
  · rw [connect_apart hc] at h
    cases hopen : openChannel s with
    | error e u =>
      rw [bind_error hopen] at h
      injection h with _ ht
      rw [← ht]
      exact (openChannel_refused hσ hδ hopen).ports_eq
    | ok _ u =>
      rw [bind_ok hopen] at h
      exact absurd rfl (start_free hδ u _ t h port)

theorem disconnect_honours : Keeps Honours (disconnect : Op σ δ Unit) := by
  intro s
  have hgiven : Honours s (s.onReader
      ({ · with state := .disconnected, inserted := none, pending := none })) :=
    Station.Local.honours ⟨rfl, rfl, rfl, rfl, rfl⟩
  unfold disconnect
  dsimp only
  generalize s.onReader
    ({ · with state := .disconnected, inserted := none, pending := none }) = first at hgiven
  refine closed_honours.trans hgiven ?_
  split
  · exact closed_honours.refl first
  · rename_i c hc
    split
    · exact forget_honours first
    · have hreleased := quietly_local hδ.release first
      have hlast : (quietly Driver.release first).reader.channel =
          some ((quietly Driver.release first).reader.channel.getD c) := by
        rw [quietly_some hc, after_atChannel]
        rfl
      have hclosed := atChannel_local (close_local hσ) hlast
      split
      · rename_i t hrun
        rw [hrun] at hclosed
        have hleft := (Station.closed_local.trans hreleased hclosed).honours
        exact closed_honours.trans hleft (forget_honours t)
      · rename_i e t hrun
        rw [hrun] at hclosed
        have hleft := (Station.closed_local.trans hreleased hclosed).honours
        exact closed_honours.trans hleft (forget_honours t)

omit hσ hδ in
theorem disconnect_free : Fails ReaderError.Free (disconnect : Op σ δ Unit) := by
  intro s e t h
  unfold disconnect at h
  dsimp only at h
  split at h
  · contradiction
  · split at h
    · contradiction
    · split at h
      · contradiction
      · rename_i e' u hrun
        injection h with he _
        rw [← he]
        unfold atChannel at hrun
        split at hrun
        · contradiction
        · rename_i e'' b hfailed
          injection hrun with he' _
          rw [← he']
          exact Channel.close_fails ReaderError.ordinary_free _ _ _ hfailed

omit hσ in
theorem look_local : Keeps Station.Local (look : Op σ δ (Option Chip)) := by
  have hC := Station.closed_local (σ := σ) (δ := δ)
  unfold look
  refine Keeps.bind hC (Keeps.get hC) fun s => use_local ?_
  exact Keeps.bind Bench.closed_local (Keeps.change fun _ => ⟨rfl, rfl⟩) fun _ => hδ.chipInAir

end

namespace Operation

/-- Commands and incidents that leave the ports in use and the name of the channel alone;
connecting, disconnecting and waiting need no proviso. -/
def Local : Operation σ δ → Prop
  | command act => Keeps Bench.Local act
  | endSession act => Keeps Bench.Local act
  | incident f => ∀ link, Link.name (f link) = Link.name link
  | elsewhere f => ∀ w, (f w).ports = w.ports
  | _ => True

variable [Driver δ] (hδ : Driver.Local σ δ)
include hδ

omit hσ in
/-- What is neither connecting nor disconnecting takes no port and gives none back. -/
theorem run_local {op : Operation σ δ} (h : op.Local) (hconnect : op ≠ connect)
    (hdisconnect : op ≠ disconnect) (s : Station σ δ) : Station.Local s (after (op.run s)) := by
  have hC := waitable_local.closed_resumed (σ := σ) (δ := δ)
  have hlook := look_local hδ
  cases op with
  | connect => exact absurd rfl hconnect
  | disconnect => exact absurd rfl hdisconnect
  | waitInsertion wait patience =>
    have hwait := waitable_local.waitInsertion hlook wait patience
    exact (Keeps.bind hC hwait (fun _ => Keeps.pure hC _) s).1
  | waitRemoval wait patience =>
    have hwait := waitable_local.waitRemoval hlook wait patience
    exact (Keeps.bind hC hwait (fun _ => Keeps.pure hC _) s).1
  | command act => exact use_local h s
  | endSession act => exact endSession_local h s
  | adjust f => exact ⟨rfl, rfl, rfl, rfl, rfl⟩
  | incident f =>
    refine ⟨rfl, rfl, ?_, rfl, rfl⟩
    change (s.reader.channel.map fun c => { c with link := f c.link }).map Channel.name =
      s.reader.channel.map Channel.name
    rw [Option.map_map]
    congr 1
    funext c
    exact h c.link
  | elsewhere f => exact ⟨h s.world, rfl, rfl, rfl, rfl⟩

theorem run_honours {op : Operation σ δ} (h : op.Local) : Keeps Honours op.run := by
  intro s
  by_cases hconnect : op = connect
  · rw [hconnect]
    exact connect_honours hσ hδ s
  · by_cases hdisconnect : op = disconnect
    · rw [hdisconnect]
      exact disconnect_honours hσ hδ s
    · exact (run_local hδ h hconnect hdisconnect s).honours

theorem run_refused {op : Operation σ δ} (h : op.Local) {s t : Station σ δ} {port : String}
    (hrun : op.run s = .error (.portInUse port) t) : t.world.ports = s.world.ports := by
  by_cases hconnect : op = connect
  · rw [hconnect] at hrun
    exact connect_refused hσ hδ hrun
  · by_cases hdisconnect : op = disconnect
    · rw [hdisconnect] at hrun
      exact absurd rfl (disconnect_free s _ t hrun port)
    · have hsame := run_local hδ h hconnect hdisconnect s
      rw [hrun] at hsame
      exact hsame.ports_eq

end Operation

end Reader

end

end CardReader
