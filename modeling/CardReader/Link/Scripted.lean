import CardReader.Link.Basic

namespace CardReader

/-- Something that a device brings: bytes, or a failure of the link. -/
inductive Delivery where
  | chunk (data : Bytes)
  | fault (cause : LinkError)
  deriving DecidableEq

/-- Answer of a device to a command: failure of the writing, or deliveries after delays. -/
inductive Reaction where
  | refuse (cause : LinkError)
  | deliver (events : List (Nat × Delivery))
  deriving DecidableEq

/-- A device: outcomes of the next openings, reactions to the next commands and to those after
them, outcome of closing, and the deliveries under way with the times they are ready. -/
structure ScriptedLink where
  name : String
  openings : List (Option LinkError) := []
  reactions : List Reaction := []
  otherwise : Reaction := .deliver []
  closing : Option LinkError := none
  connected : Bool := false
  queue : List (Nat × Delivery) := []

namespace ScriptedLink

/-- Success, or the failure if there is one. -/
def outcome : Option LinkError → Except LinkError Unit
  | none => .ok ()
  | some e => .error e

/-- Deliveries with delays, as they stand at time `now`. -/
def schedule (now : Nat) (events : List (Nat × Delivery)) : List (Nat × Delivery) :=
  events.map fun e => (now + e.1, e.2)

def connect (s : ScriptedLink) : Outcome ScriptedLink Unit :=
  let fault := s.openings.head?.join
  ⟨outcome fault, { s with openings := s.openings.tail, connected := s.connected || fault.isNone },
    0⟩

def disconnect (s : ScriptedLink) : Outcome ScriptedLink Unit :=
  ⟨outcome s.closing, { s with connected := false }, 0⟩

def send (now : Nat) (s : ScriptedLink) : Outcome ScriptedLink Unit :=
  if ¬ s.connected then ⟨.error .notConnected, s, 0⟩
  else
    match s.reactions.headD s.otherwise with
    | .refuse e => ⟨.error e, { s with reactions := s.reactions.tail }, 0⟩
    | .deliver events =>
      ⟨.ok (), { s with
        reactions := s.reactions.tail
        queue := s.queue ++ schedule now events }, 0⟩

/-- The first delivery, if it is ready in time; each call brings one delivery. -/
def receive (now deadline : Nat) (s : ScriptedLink) : Outcome ScriptedLink Bytes :=
  if ¬ s.connected then ⟨.error .notConnected, s, 0⟩
  else
    match s.queue with
    | [] => ⟨.ok [], s, deadline - now⟩
    | (ready, delivery) :: rest =>
      if deadline < ready then ⟨.ok [], s, deadline - now⟩
      else
        let result := match delivery with
          | .chunk data => .ok data
          | .fault e => .error e
        ⟨result, { s with queue := rest }, ready - now⟩

instance : Link ScriptedLink where
  name := ScriptedLink.name
  isOpen := connected
  connect _ := connect
  disconnect _ := disconnect
  send now _ := send now
  receive := receive
  backlog s := s.queue.length
  backlog_receive now deadline s chunk h ne := by
    unfold receive at h ⊢
    split at h
    · simp at h
    · split at h
      · simp only [Except.ok.injEq] at h
        exact absurd h.symm ne
      · rename_i open' _ ready delivery rest hq
        rw [if_neg open', hq]
        split at h
        · simp only [Except.ok.injEq] at h
          exact absurd h.symm ne
        · rename_i late
          simp [late]

end ScriptedLink

end CardReader
