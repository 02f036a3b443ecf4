import CardReader.Proofs.Reader
import CardReader.Registry

namespace CardReader

open Run

variable {σ δ α : Type}

namespace Station

/-- Nothing changed but the driver, the surroundings, the cards and what the channel holds. -/
structure Alike (s s' : Station σ δ) : Prop where
  scanner_eq : s'.reader.scanner.isSome = s.reader.scanner.isSome
  channel_eq : s'.reader.channel.isSome = s.reader.channel.isSome
  lease_eq : s'.reader.lease = s.reader.lease
  settings_eq : s'.reader.settings = s.reader.settings

theorem closed_alike : Closed (Alike (σ := σ) (δ := δ)) where
  refl _ := ⟨rfl, rfl, rfl, rfl⟩
  trans h h' := ⟨h'.scanner_eq.trans h.scanner_eq, h'.channel_eq.trans h.channel_eq,
    h'.lease_eq.trans h.lease_eq, h'.settings_eq.trans h.settings_eq⟩

theorem waitable_alike : Reader.Waitable (Alike (σ := σ) (δ := δ)) where
  toClosed := closed_alike
  aside _ _ _ _ _ := ⟨rfl, rfl, rfl, rfl⟩
  cards _ _ _ := ⟨rfl, rfl, rfl, rfl⟩

end Station

namespace Reader

open Station

theorem back_alike {s : Station σ δ} {c : Channel σ} (hc : s.reader.channel = some c)
    (b : Bench σ δ) : Alike s (s.back b) where
  scanner_eq := rfl
  channel_eq := by
    rw [hc]
    rfl
  lease_eq := rfl
  settings_eq := rfl

theorem use_alike [Link σ] (act : Act σ δ α) : Keeps (Resumed Alike) (use act) := by
  intro s
  unfold use
  cases hc : s.reader.channel with
  | none => exact ⟨closed_alike.refl s, rfl⟩
  | some c =>
    dsimp only
    by_cases hs : s.reader.isConnected
    · rw [if_pos hs, after_atChannel]
      exact ⟨back_alike hc _, rfl⟩
    · rw [if_neg hs]
      exact ⟨closed_alike.refl s, rfl⟩

theorem look_alike [Link σ] [Driver δ] : Keeps Alike (look : Op σ δ (Option Chip)) := by
  unfold look
  exact Keeps.bind closed_alike (Keeps.get closed_alike) fun _ t => (use_alike _ t).1

/-- A reader as it is made. -/
structure New (r : Reader σ δ) : Prop where
  state_eq : r.state = .disconnected
  inserted_eq : r.inserted = none
  pending_eq : r.pending = none
  unfound : r.scanner.isSome → r.channel = none ∧ r.lease = none

theorem new_onLink (d : δ) (link : σ) (settings : Settings) : (onLink d link settings).New :=
  ⟨rfl, rfl, rfl, fun h => absurd h Bool.false_ne_true⟩

/-- What a registry makes is new. -/
theorem new_create {r : Registry} {outlets : Outlets σ} {c : ReaderConfig} {settings : Settings}
    {w w' : World} {reader : Reader σ AnyDevice}
    (h : r.create outlets c settings w = .ok (reader, w')) : reader.New := by
  unfold Registry.create at h
  cases hdevice : r.device c with
  | error e =>
    rw [hdevice] at h
    contradiction
  | ok d =>
    rw [hdevice] at h
    change Registry.place outlets c settings d w = _ at h
    unfold Registry.place at h
    cases hendpoint : c.endpoint with
    | tcp host port =>
      rw [hendpoint] at h
      obtain ⟨rfl, -⟩ := Prod.mk.inj (Except.ok.inj h)
      exact ⟨rfl, rfl, rfl, fun hs => absurd hs Bool.false_ne_true⟩
    | serial port baud =>
      rw [hendpoint] at h
      cases port with
      | none =>
        obtain ⟨rfl, -⟩ := Prod.mk.inj (Except.ok.inj h)
        exact ⟨rfl, rfl, rfl, fun _ => ⟨rfl, rfl⟩⟩
      | some port =>
        dsimp only at h
        cases hclaim : w.claim? port with
        | none =>
          rw [hclaim] at h
          contradiction
        | some world =>
          rw [hclaim] at h
          obtain ⟨rfl, -⟩ := Prod.mk.inj (Except.ok.inj h)
          exact ⟨rfl, rfl, rfl, fun hs => absurd hs Bool.false_ne_true⟩

/-- Ends the session of the driver by `act`; the reader stays connected. -/
def endSession [Link σ] (act : Act σ δ Unit) : Op σ δ Unit := do
  use act
  change ({ · with state := .connected })

/-- Ending a session neither connects a reader nor disconnects it. -/
theorem endSession_alike [Link σ] (act : Act σ δ Unit) (s : Station σ δ) :
    Alike s (after (endSession act s)) ∧
      ((after (endSession act s)).reader.state = .disconnected ↔
        s.reader.state = .disconnected) := by
  have huse := use_alike act s
  unfold endSession
  cases hrun : use act s with
  | ok _ t =>
    rw [hrun] at huse
    obtain ⟨halike, -⟩ := huse
    rw [bind_ok hrun]
    refine ⟨⟨halike.scanner_eq, halike.channel_eq, halike.lease_eq, halike.settings_eq⟩, ?_⟩
    refine iff_of_false ReaderState.noConfusion fun hs => ?_
    have hapart : ¬ s.reader.isConnected := by
      unfold isConnected
      rw [hs]
      exact Bool.false_ne_true
    rw [use_apart act hapart] at hrun
    contradiction
  | error e t =>
    rw [hrun] at huse
    rw [bind_error hrun]
    exact ⟨huse.1, by rw [after, show t.reader.state = _ from huse.2]⟩

/-- Something that happens to a reader. -/
inductive Operation (σ δ : Type) where
  | connect
  | disconnect
  | waitInsertion (wait patience : Nat)
  | waitRemoval (wait patience : Nat)
  /-- Commands of the driver, at the channel of a connected reader. -/
  | command (act : Act σ δ Unit)
  /-- Commands of the driver that end its session when they succeed. -/
  | endSession (act : Act σ δ Unit)
  /-- The driver is changed apart from its channel. -/
  | adjust (change : δ → δ)
  /-- The link changes on its own. -/
  | incident (change : σ → σ)
  /-- Other readers, and time, change what is shared. -/
  | elsewhere (change : World → World)

namespace Operation

variable [Link σ] [Driver δ]

def run : Operation σ δ → Op σ δ Unit
  | connect => Reader.connect
  | disconnect => Reader.disconnect
  | waitInsertion wait patience => do let _ ← Reader.waitInsertion wait patience
  | waitRemoval wait patience => do let _ ← Reader.waitRemoval wait patience
  | command act => use act
  | endSession act => Reader.endSession act
  | adjust f => change fun r => { r with driver := f r.driver }
  | incident f =>
    change fun r => { r with channel := r.channel.map fun c => { c with link := f c.link } }
  | elsewhere f => modify fun s => { s with world := f s.world }

def runs (s : Station σ δ) (ops : List (Operation σ δ)) : Station σ δ :=
  ops.foldl (fun s op => after (op.run s)) s

/-- Only connecting and disconnecting begin a connection or end it. -/
theorem run_alike {op : Operation σ δ} (hconnect : op ≠ connect) (hdisconnect : op ≠ disconnect)
    (s : Station σ δ) : Alike s (after (op.run s)) ∧
      ((after (op.run s)).reader.state = .disconnected ↔ s.reader.state = .disconnected) := by
  have hC := waitable_alike.closed_resumed (σ := σ) (δ := δ)
  have hresumed : ∀ {t : Station σ δ}, Resumed Alike s t →
      Alike s t ∧ (t.reader.state = .disconnected ↔ s.reader.state = .disconnected) := by
    intro t ht
    exact ⟨ht.1, by rw [ht.2]⟩
  cases op with
  | connect => exact absurd rfl hconnect
  | disconnect => exact absurd rfl hdisconnect
  | waitInsertion wait patience =>
    have hwait := waitable_alike.waitInsertion (look_alike (σ := σ) (δ := δ)) wait patience
    exact hresumed (Keeps.bind hC hwait (fun _ => Keeps.pure hC _) s)
  | waitRemoval wait patience =>
    have hwait := waitable_alike.waitRemoval (look_alike (σ := σ) (δ := δ)) wait patience
    exact hresumed (Keeps.bind hC hwait (fun _ => Keeps.pure hC _) s)
  | command act => exact hresumed (use_alike act s)
  | endSession act => exact endSession_alike act s
  | adjust f => exact ⟨⟨rfl, rfl, rfl, rfl⟩, Iff.rfl⟩
  | incident f => exact ⟨⟨rfl, Option.isSome_map, rfl, rfl⟩, Iff.rfl⟩
  | elsewhere f => exact ⟨⟨rfl, rfl, rfl, rfl⟩, Iff.rfl⟩

end Operation

end Reader

end CardReader
