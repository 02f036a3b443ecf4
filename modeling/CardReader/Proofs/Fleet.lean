import CardReader.Fleet
import CardReader.Proofs.Reader.Ports
import Mathlib.Tactic.Common

namespace CardReader

open Run

variable {σ δ α : Type}

/-- A reader is made with the port that its endpoint names, and that one was free. -/
theorem Registry.create_ok [Link σ] {registry : Registry} {outlets : Outlets σ} {c : ReaderConfig}
    {settings : Settings} {w w' : World} {reader : Reader σ AnyDevice}
    (h : registry.create outlets c settings w = .ok (reader, w')) :
    reader.Entitled c.endpoint ∧ w'.ports = reader.lease.toList ++ w.ports ∧
      ∀ port, reader.lease = some port → port ∉ w.ports := by
  unfold create at h
  cases hdevice : registry.device c with
  | error e =>
    rw [hdevice] at h
    contradiction
  | ok d =>
    rw [hdevice] at h
    change place outlets c settings d w = _ at h
    unfold place at h
    cases hendpoint : c.endpoint with
    | tcp host port =>
      rw [hendpoint] at h
      obtain ⟨rfl, rfl⟩ := Prod.mk.inj (Except.ok.inj h)
      exact ⟨⟨rfl, rfl, rfl⟩, rfl, nofun⟩
    | serial port baud =>
      rw [hendpoint] at h
      cases port with
      | none =>
        obtain ⟨rfl, rfl⟩ := Prod.mk.inj (Except.ok.inj h)
        exact ⟨⟨rfl, rfl, rfl⟩, rfl, nofun⟩
      | some port =>
        dsimp only [World.claim?] at h
        by_cases hused : w.ports.contains port
        · rw [if_pos hused] at h
          contradiction
        · rw [if_neg hused] at h
          obtain ⟨rfl, rfl⟩ := Prod.mk.inj (Except.ok.inj h)
          refine ⟨⟨rfl, rfl, rfl⟩, rfl, ?_⟩
          intro other hother hmem
          rw [← Option.some.inj hother] at hmem
          exact hused (List.contains_iff_mem.mpr hmem)

namespace Fleet

def lease? (n : Nat) (f : Fleet σ) : Option String := (f.reader? n).bind Reader.lease

def leases (slots : List (Option (Reader σ AnyDevice))) : List String :=
  slots.filterMap (·.bind Reader.lease)

/-- A port is leased if the reader in some slot has it in use. -/
theorem mem_leases {f : Fleet σ} {port : String} :
    port ∈ leases f.slots ↔ ∃ n, f.lease? n = some port := by
  unfold leases lease? reader?
  rw [List.mem_filterMap]
  constructor
  · rintro ⟨slot, hslot, hport⟩
    obtain ⟨n, hn⟩ := List.mem_iff_getElem?.mp hslot
    exact ⟨n, by rw [hn]; exact hport⟩
  · rintro ⟨n, hport⟩
    cases hn : f.slots[n]? with
    | none =>
      rw [hn] at hport
      contradiction
    | some slot =>
      rw [hn] at hport
      exact ⟨slot, List.mem_of_getElem? hn, hport⟩

/-- The port of one slot, and those of the others. -/
theorem leases_set {slots : List (Option (Reader σ AnyDevice))} {n : Nat} (h : n < slots.length)
    (slot : Option (Reader σ AnyDevice)) :
    (leases (slots.set n slot)).Perm
      ((slot.bind Reader.lease).toList ++ leases (slots.set n none)) := by
  unfold leases
  rw [List.set_eq_take_append_cons_drop, List.set_eq_take_append_cons_drop, if_pos h, if_pos h,
    List.filterMap_append, List.filterMap_append]
  cases hlease : slot.bind Reader.lease <;> simp [hlease]

theorem lt_length {f : Fleet σ} {n : Nat} {r : Reader σ AnyDevice} (h : f.reader? n = some r) :
    n < f.slots.length := by
  by_contra hlate
  unfold reader? at h
  rw [List.getElem?_eq_none (Nat.le_of_not_lt hlate)] at h
  contradiction

theorem set_reader {f : Fleet σ} {n : Nat} {r : Reader σ AnyDevice} (h : f.reader? n = some r) :
    f.slots.set n (some r) = f.slots := by
  have hlt := lt_length h
  have hslot : f.slots[n] = some r := by
    unfold reader? at h
    rw [List.getElem?_eq_getElem hlt] at h
    exact h
  rw [← hslot]
  exact List.set_getElem_self hlt

/-- A fleet whose reader in a slot is at a station. -/
def put (n : Nat) (s : Station σ AnyDevice) (f : Fleet σ) : Fleet σ :=
  { f with world := s.world, slots := f.slots.set n (some s.reader) }

theorem on?_some {f : Fleet σ} {n : Nat} {r : Reader σ AnyDevice} (h : f.reader? n = some r)
    (op : Reader.Op σ AnyDevice α) :
    f.on? n op = (some (outcome (op ⟨f.world, r⟩)), f.put n (after (op ⟨f.world, r⟩))) := by
  unfold on?
  rw [h]
  dsimp only
  cases op ⟨f.world, r⟩ with
  | ok a s => rfl
  | error e s => rfl

theorem on?_none {f : Fleet σ} {n : Nat} (h : f.reader? n = none)
    (op : Reader.Op σ AnyDevice α) : f.on? n op = (none, f) := by
  unfold on?
  rw [h]

/-- Something that happens to a fleet. -/
inductive Step (σ : Type) where
  | create (outlets : Outlets σ) (c : ReaderConfig) (s : Settings)
  | operate (n : Nat) (op : Reader.Operation σ AnyDevice)
  /-- The halves of connecting, between which it is the turn of others. -/
  | openChannel (n : Nat)
  | start (n : Nat)
  | drop (n : Nat)

namespace Step

variable [Link σ]

def run (step : Step σ) (f : Fleet σ) : Except ReaderError Unit × Fleet σ :=
  match step with
  | create outlets c s => ((f.create outlets c s).1.map fun _ => (), (f.create outlets c s).2)
  | operate n op => ((f.on? n op.run).1.getD (.ok ()), (f.on? n op.run).2)
  | openChannel n => ((f.on? n Reader.openChannel).1.getD (.ok ()), (f.on? n Reader.openChannel).2)
  | start n => ((f.on? n Reader.start).1.getD (.ok ()), (f.on? n Reader.start).2)
  | drop n => (.ok (), f.drop n)

/-- Commands of drivers leave the ports in use alone. -/
def Local : Step σ → Prop
  | operate _ op => op.Local
  | _ => True

def config? : Step σ → Option ReaderConfig
  | create _ c _ => some c
  | _ => none

end Step

/-- A fleet after some steps, of which each may fail. -/
def runs [Link σ] (f : Fleet σ) (steps : List (Step σ)) : Fleet σ :=
  steps.foldl (fun f step => (step.run f).2) f

/-- The ports in use are those of the readers, each one once, and each reader has the one that its
configuration and its channel say. -/
structure Sound [Link σ] (configs : List ReaderConfig) (f : Fleet σ) : Prop where
  perm : f.world.ports.Perm (leases f.slots)
  nodup : f.world.ports.Nodup
  length_eq : f.slots.length = configs.length
  entitled : ∀ n r, f.reader? n = some r → ∃ c, configs[n]? = some c ∧ r.Entitled c.endpoint

namespace Sound

variable [Link σ] {configs : List ReaderConfig} {f : Fleet σ}

theorem shared (h : Sound configs f) {n : Nat} {r : Reader σ AnyDevice}
    (hr : f.reader? n = some r) :
    Station.Shared (leases (f.slots.set n none)) ⟨f.world, r⟩ := by
  have hsplit := leases_set (lt_length hr) (some r)
  rw [set_reader hr] at hsplit
  exact ⟨h.perm.trans hsplit, h.nodup⟩

/-- A reader that honours the ports of others keeps the fleet sound. -/
theorem put (h : Sound configs f) {n : Nat} {r : Reader σ AnyDevice} (hr : f.reader? n = some r)
    {s : Station σ AnyDevice} (hs : Station.Honours ⟨f.world, r⟩ s) :
    Sound configs (f.put n s) := by
  have hlt := lt_length hr
  obtain ⟨hperm, hnodup⟩ := hs.shared _ (h.shared hr)
  refine ⟨hperm.trans (leases_set hlt (some s.reader)).symm, hnodup, ?_, ?_⟩
  · exact (List.length_set ..).trans h.length_eq
  · intro m r' hm
    unfold reader? Fleet.put at hm
    by_cases heq : n = m
    · rw [← heq] at hm ⊢
      rw [List.getElem?_set_self hlt] at hm
      obtain ⟨c, hc, hentitled⟩ := h.entitled n r hr
      refine ⟨c, hc, ?_⟩
      rw [← Option.some.inj hm]
      exact hs.entitled _ hentitled
    · rw [List.getElem?_set_ne heq] at hm
      exact h.entitled m r' hm

theorem on? (h : Sound configs f) (n : Nat) {op : Reader.Op σ AnyDevice α}
    (hop : Keeps Station.Honours op) : Sound configs (f.on? n op).2 := by
  cases hr : f.reader? n with
  | none =>
    rw [on?_none hr]
    exact h
  | some r =>
    rw [on?_some hr]
    exact h.put hr (hop ⟨f.world, r⟩)

theorem drop (h : Sound configs f) (n : Nat) : Sound configs (f.drop n) := by
  unfold Fleet.drop
  cases hr : f.reader? n with
  | none => exact h
  | some r =>
    have hlt := lt_length hr
    obtain ⟨hperm, hnodup⟩ := (h.shared hr).vacated
    rw [Station.vacated_eq] at hperm hnodup
    refine ⟨?_, ?_, (List.length_set ..).trans h.length_eq, ?_⟩
    · dsimp only
      rw [Station.vacated_eq]
      exact hperm
    · dsimp only
      rw [Station.vacated_eq]
      exact hnodup
    · intro m r' hm
      unfold reader? at hm
      by_cases heq : n = m
      · rw [← heq, List.getElem?_set_self hlt] at hm
        contradiction
      · rw [List.getElem?_set_ne heq] at hm
        exact h.entitled m r' hm

/-- One more slot leaves the others as they are. -/
theorem entitled_concat (h : Sound configs f) {slot : Option (Reader σ AnyDevice)}
    {c : ReaderConfig} (hslot : ∀ r, slot = some r → r.Entitled c.endpoint) {n : Nat}
    {r : Reader σ AnyDevice} (hn : ((f.slots ++ [slot])[n]?).join = some r) :
    ∃ c', (configs ++ [c])[n]? = some c' ∧ r.Entitled c'.endpoint := by
  obtain hlt | heq | hgt := Nat.lt_trichotomy n f.slots.length
  · rw [List.getElem?_append_left hlt] at hn
    obtain ⟨c', hc', hentitled⟩ := h.entitled n r hn
    exact ⟨c', by rw [List.getElem?_append_left (h.length_eq ▸ hlt)]; exact hc', hentitled⟩
  · rw [heq, List.getElem?_concat_length] at hn
    refine ⟨c, ?_, hslot r hn⟩
    rw [heq, h.length_eq, List.getElem?_concat_length]
  · have hlate : (f.slots ++ [slot]).length ≤ n := by
      rw [List.length_append]
      exact hgt
    rw [List.getElem?_eq_none hlate] at hn
    contradiction

theorem create (h : Sound configs f) (outlets : Outlets σ) (c : ReaderConfig) (s : Settings) :
    Sound (configs ++ [c]) (f.create outlets c s).2 := by
  have hlength : ∀ slot, (f.slots ++ [slot]).length = (configs ++ [c]).length := by
    intro slot
    simp [h.length_eq]
  unfold Fleet.create
  cases hmade : f.registry.create outlets c s f.world with
  | error e =>
    refine ⟨?_, h.nodup, hlength none, fun n r hn => h.entitled_concat (by simp) hn⟩
    simpa [leases] using h.perm
  | ok made =>
    obtain ⟨reader, w⟩ := made
    obtain ⟨hentitled, hports, hfree⟩ := Registry.create_ok hmade
    dsimp only
    refine ⟨?_, ?_, hlength (some reader), fun n r hn => h.entitled_concat ?_ hn⟩
    · have hleases : leases (f.slots ++ [some reader]) =
          leases f.slots ++ reader.lease.toList := by
        cases hlease : reader.lease <;> simp [leases, hlease]
      rw [hports, hleases]
      exact (h.perm.append_left _).trans List.perm_append_comm
    · rw [hports]
      cases hlease : reader.lease with
      | none => exact h.nodup
      | some port => exact List.nodup_cons.mpr ⟨hfree port hlease, h.nodup⟩
    · intro r hr
      rw [← Option.some.inj hr]
      exact hentitled

variable (hσ : Link.Named σ)
include hσ

/-- One step, also one that fails. -/
theorem step (h : Sound configs f) {step : Step σ} (hstep : step.Local) :
    Sound (configs ++ step.config?.toList) (step.run f).2 := by
  have hδ := AnyDevice.local hσ
  cases step with
  | create outlets c s => exact h.create outlets c s
  | operate n op =>
    change Sound (configs ++ []) _
    rw [List.append_nil]
    exact h.on? n (Reader.Operation.run_honours hσ hδ hstep)
  | openChannel n =>
    change Sound (configs ++ []) _
    rw [List.append_nil]
    exact h.on? n (Reader.openChannel_honours hσ hδ)
  | start n =>
    change Sound (configs ++ []) _
    rw [List.append_nil]
    exact h.on? n (Reader.start_honours hσ hδ)
  | drop n =>
    change Sound (configs ++ []) _
    rw [List.append_nil]
    exact h.drop n

theorem runs (h : Sound configs f) {steps : List (Step σ)} (hsteps : ∀ step ∈ steps, step.Local) :
    Sound (configs ++ steps.filterMap Step.config?) (f.runs steps) := by
  induction steps generalizing configs f with
  | nil => simpa [Fleet.runs] using h
  | cons step steps ih =>
    have hfirst := h.step hσ (hsteps step List.mem_cons_self)
    have hrest := ih hfirst fun later hlater => hsteps later (List.mem_cons_of_mem step hlater)
    have hconfigs : configs ++ (step :: steps).filterMap Step.config? =
        configs ++ step.config?.toList ++ steps.filterMap Step.config? := by
      cases hconfig : step.config? <;> simp [hconfig]
    rw [hconfigs]
    exact hrest

omit hσ in
/-- No two readers have one port in use. -/
theorem lease_unique (h : Sound configs f) {m n : Nat} {port : String}
    (hm : f.lease? m = some port) (hn : f.lease? n = some port) : m = n := by
  by_contra hne
  obtain ⟨r, hr, hlease⟩ := Option.bind_eq_some_iff.mp hm
  have hshared := h.shared hr
  have hother : port ∈ leases (f.slots.set m none) := by
    apply mem_leases (f := { f with slots := f.slots.set m none }).mpr
    refine ⟨n, ?_⟩
    unfold lease? reader?
    rw [List.getElem?_set_ne hne]
    exact hn
  have hnodup := hshared.perm.nodup hshared.nodup
  change (r.lease.toList ++ _).Nodup at hnodup
  rw [hlease] at hnodup
  exact (List.nodup_cons.mp hnodup).1 hother

end Sound

/-- To be refused a port changes nothing about the ports in use. -/
theorem on?_refused {f : Fleet σ} {n : Nat} {op : Reader.Op σ AnyDevice Unit} {port : String}
    (hop : ∀ s t, op s = .error (.portInUse port) t → t.world.ports = s.world.ports)
    (h : (f.on? n op).1.getD (.ok ()) = .error (.portInUse port)) :
    (f.on? n op).2.world.ports = f.world.ports := by
  cases hr : f.reader? n with
  | none => rw [on?_none hr]
  | some r =>
    rw [on?_some hr] at h ⊢
    change outcome (op ⟨f.world, r⟩) = _ at h
    cases hrun : op ⟨f.world, r⟩ with
    | ok a s =>
      rw [hrun] at h
      contradiction
    | error e s =>
      rw [hrun] at h
      rw [Except.error.inj h] at hrun
      exact hop _ _ hrun

variable [Link σ] (hσ : Link.Named σ)
include hσ

/-- A step that is refused a port takes none and gives none back. -/
theorem Step.run_refused {step : Step σ} (hstep : step.Local) {f : Fleet σ} {port : String}
    (h : (step.run f).1 = .error (.portInUse port)) :
    (step.run f).2.world.ports = f.world.ports := by
  have hδ := AnyDevice.local hσ
  cases step with
  | create outlets c s =>
    change (f.create outlets c s).1.map _ = _ at h
    change (f.create outlets c s).2.world.ports = _
    unfold Fleet.create at h ⊢
    cases hmade : f.registry.create outlets c s f.world with
    | error e => rfl
    | ok made =>
      rw [hmade] at h
      contradiction
  | operate n op =>
    exact on?_refused (fun s t hrun => Reader.Operation.run_refused hσ hδ hstep hrun) h
  | openChannel n =>
    exact on?_refused (fun s t hrun => (Reader.openChannel_refused hσ hδ hrun).ports_eq) h
  | start n =>
    exact on?_refused (fun s t hrun => absurd rfl (Reader.start_free hδ s _ t hrun port)) h
  | drop n => contradiction

omit hσ in
/-- A reader is there until it is dropped. -/
theorem Step.run_live {step : Step σ} {f : Fleet σ} {n : Nat} (hlive : (f.reader? n).isSome)
    (hstep : step ≠ .drop n) : ((step.run f).2.reader? n).isSome := by
  obtain ⟨r, hr⟩ := Option.isSome_iff_exists.mp hlive
  have hon : ∀ m (op : Reader.Op σ AnyDevice Unit), ((f.on? m op).2.reader? n).isSome := by
    intro m op
    cases hm : f.reader? m with
    | none =>
      rw [on?_none hm]
      exact hlive
    | some r' =>
      rw [on?_some hm]
      unfold put reader?
      dsimp only
      by_cases heq : m = n
      · rw [heq, List.getElem?_set_self (lt_length hr)]
        rfl
      · rw [List.getElem?_set_ne heq]
        exact hlive
  cases step with
  | create outlets c s =>
    have hkept : ∀ slot, (((f.slots ++ [slot])[n]?).join).isSome := by
      intro slot
      rw [List.getElem?_append_left (lt_length hr)]
      exact hlive
    change ((f.create outlets c s).2.reader? n).isSome
    unfold Fleet.create
    cases f.registry.create outlets c s f.world with
    | error e => exact hkept none
    | ok made => exact hkept (some made.1)
  | operate m op => exact hon m _
  | openChannel m => exact hon m _
  | start m => exact hon m _
  | drop m =>
    have hne : m ≠ n := fun heq => hstep (by rw [heq])
    change ((f.drop m).reader? n).isSome
    unfold Fleet.drop
    cases hm : f.reader? m with
    | none => exact hlive
    | some r' =>
      unfold reader?
      dsimp only
      rw [List.getElem?_set_ne hne]
      exact hlive

/-- Whatever happened to the readers of a registry, and in whatever order: a port is in use exactly
if one of the readers has it in use, and only one has; each reader has the port in use that its
configuration names, or that of its channel when its port is to be found, from when it is made until
it is dropped; and to be refused a port changes nothing about the ports in use. -/
theorem ports_exclusive (registry : Registry) (w : World) {steps : List (Step σ)}
    (hsteps : ∀ step ∈ steps, step.Local) :
    let f := runs { world := { w with ports := [] }, registry } steps
    (∀ port, f.world.ports.contains port ↔ ∃ n, f.lease? n = some port) ∧
      (∀ port m n, f.lease? m = some port → f.lease? n = some port → m = n) ∧
      (∀ n r, f.reader? n = some r → ∃ c, (steps.filterMap Step.config?)[n]? = some c ∧
        r.lease = c.endpoint.lease r.name) ∧
      ∀ step : Step σ, step.Local →
        (∀ port, (step.run f).1 = .error (.portInUse port) →
          (step.run f).2.world.ports = f.world.ports) ∧
        ∀ n, (f.reader? n).isSome → step ≠ .drop n → ((step.run f).2.reader? n).isSome := by
  intro f
  have hstart : Sound [] ({ world := { w with ports := [] }, registry } : Fleet σ) :=
    ⟨.nil, .nil, rfl, fun n r h => by simp [reader?] at h⟩
  have hsound := hstart.runs hσ hsteps
  rw [List.nil_append] at hsound
  refine ⟨?_, ?_, ?_, ?_⟩
  · intro port
    rw [List.contains_iff_mem, hsound.perm.mem_iff]
    exact mem_leases
  · intro port m n hm hn
    exact hsound.lease_unique hm hn
  · intro n r hr
    obtain ⟨c, hc, hentitled⟩ := hsound.entitled n r hr
    exact ⟨c, hc, hentitled.lease_eq⟩
  · intro step hstep
    exact ⟨fun port => Step.run_refused hσ hstep, fun n => Step.run_live⟩

end Fleet

theorem ScriptedLink.named : Link.Named ScriptedLink where
  connect _ _ := rfl
  disconnect _ _ := rfl
  send now data s := by
    change (ScriptedLink.send now s).link.name = s.name
    unfold ScriptedLink.send
    split
    · rfl
    · split <;> rfl
  receive now deadline s := by
    change (ScriptedLink.receive now deadline s).link.name = s.name
    unfold ScriptedLink.receive
    split
    · rfl
    · split
      · rfl
      · split <;> rfl

/-- A reader at a port that answers whatever it is asked. -/
def talkative (port : String) : ScriptedLink :=
  { name := port, otherwise := .deliver [(1, .chunk [0x02, 0x50, 0x0D])] }

/-- Ports of which one is found. -/
def onePort : Outlets ScriptedLink where
  serial port _ _ := talkative port
  socket host _ _ := talkative host
  scanner _ _ := Scanner.scripted [.ok [talkative "sim0"]]

/-- Two readers at one port: it is the port of the first one, and the second one is to find it. -/
def rivals : List (Fleet.Step ScriptedLink) :=
  [.create onePort { family := .promag, endpoint := .serial (some "sim0") none } {},
    .create onePort { family := .promag } { detectPorts := true }]

theorem ports_exclusive_rivals :
    Link.Named ScriptedLink ∧ (∀ step ∈ rivals, step.Local) ∧
      let f := Fleet.runs { registry := .defaults } rivals
      (∃ n, f.lease? n = some "sim0") ∧
        ((Fleet.Step.operate 1 .connect).run f).1 = .error (.portInUse "sim0") ∧
        ((Fleet.Step.operate 1 .connect).run f).2.world.ports = f.world.ports := by
  have hlocal : ∀ step ∈ rivals, step.Local := by simp [rivals, Fleet.Step.Local]
  obtain ⟨hused, -, -, hnext⟩ := Fleet.ports_exclusive ScriptedLink.named .defaults {} hlocal
  have hfound : (Fleet.runs { registry := .defaults } rivals).world.ports.contains "sim0" := by
    decide +kernel
  have hrefused : ((Fleet.Step.operate 1 .connect).run
      (Fleet.runs { registry := .defaults } rivals)).1 = .error (.portInUse "sim0") := by
    decide +kernel
  exact ⟨ScriptedLink.named, hlocal, (hused "sim0").mp hfound, hrefused,
    (hnext (.operate 1 .connect) trivial).1 "sim0" hrefused⟩

end CardReader
