import CardReader.Proofs.Bystander

namespace CardReader

open Run Act

variable {σ δ α : Type}

/-- A link is opened by a successful opening and closed by a successful closing, and nothing else
opens it or closes it. -/
structure Link.Faithful (σ : Type) [Link σ] : Prop where
  connect_ok : ∀ now (s : σ), (Link.connect now s).result = .ok () →
    Link.isOpen (Link.connect now s).link
  connect_error : ∀ now (s : σ) e, (Link.connect now s).result = .error e →
    Link.isOpen (Link.connect now s).link = Link.isOpen s
  disconnect_ok : ∀ now (s : σ), (Link.disconnect now s).result = .ok () →
    ¬ Link.isOpen (Link.disconnect now s).link
  send_open : ∀ now data (s : σ), Link.isOpen (Link.send now data s).link = Link.isOpen s
  receive_open : ∀ now deadline (s : σ),
    Link.isOpen (Link.receive now deadline s).link = Link.isOpen s

def Event.isLink : Event → Bool
  | .opened _ => true
  | .closed _ => true
  | _ => false

def Event.isOpening : Event → Bool
  | .opened _ => true
  | _ => false

/-- How often a link was opened so far, or tried to be. -/
def World.openings (w : World) : Nat := (w.journal.filter Event.isOpening).length

variable [Link σ]

/-- No port was taken or given back, no link was opened or closed, and the timeout stayed. -/
structure Bench.Steady (b b' : Bench σ δ) : Prop where
  ports_eq : b'.world.ports = b.world.ports
  openings_eq : b'.world.openings = b.world.openings
  open_eq : b'.channel.isConnected = b.channel.isConnected
  timeout_eq : b'.channel.timeout = b.channel.timeout

namespace Bench

theorem closed_steady : Closed (Steady (σ := σ) (δ := δ)) where
  refl _ := ⟨rfl, rfl, rfl, rfl⟩
  trans h h' := ⟨h'.ports_eq.trans h.ports_eq, h'.openings_eq.trans h.openings_eq,
    h'.open_eq.trans h.open_eq, h'.timeout_eq.trans h.timeout_eq⟩

theorem ofLink_steady {op : Nat → σ → Outcome σ α}
    (hop : ∀ now s, Link.isOpen (op now s).link = Link.isOpen s) :
    Keeps Steady (ofLink (δ := δ) op) := by
  intro b
  rw [after_ofLink]
  exact ⟨rfl, rfl, hop b.world.clock b.channel.link, rfl⟩

theorem note_openings {e : Event} (h : e.isLink = false) (w : World) :
    (w.note e).openings = w.openings := by
  cases e with
  | opened name => contradiction
  | _ => rfl

theorem bystander_steady (hσ : Link.Faithful σ) : Bystander (Steady (σ := σ) (δ := Unit)) where
  toClosed := closed_steady
  receive deadline := ofLink_steady fun now s => hσ.receive_open now deadline s
  onBuffer _ _ := ⟨rfl, rfl, rfl, rfl⟩
  onLast _ _ := ⟨rfl, rfl, rfl, rfl⟩
  send data := ofLink_steady fun now s => hσ.send_open now data s
  noted b _ _ := ⟨rfl, note_openings rfl b.world, rfl, rfl⟩
  later _ _ := ⟨rfl, rfl, rfl, rfl⟩

theorem Steady.of_aside {b b' : Bench σ δ} (h : Aside Steady b b') : Steady b b' :=
  ⟨h.ports_eq, h.openings_eq, h.open_eq, h.timeout_eq⟩

end Bench

open Bench

/-- Looking for a reader and configuring it leave link, ports and timeout as they are. -/
structure Driver.Discreet (σ δ : Type) [Link σ] [Driver δ] : Prop where
  probe : Keeps Steady (Driver.probe : Act σ δ Bool)
  configure : Keeps Steady (Driver.configure : Act σ δ Unit)

theorem AnyDevice.discreet (hσ : Link.Faithful σ) : Driver.Discreet σ AnyDevice where
  probe b := .of_aside (probe_aside (bystander_steady hσ) b)
  configure b := .of_aside (configure_aside (bystander_steady hσ) b)

end CardReader
