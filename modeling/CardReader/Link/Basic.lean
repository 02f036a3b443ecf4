import CardReader.Bytes.Basic
import CardReader.Fault.Link

namespace CardReader

/-- What an operation on a link comes to. -/
structure Outcome (σ α : Type) where
  result : Except LinkError α
  link : σ
  elapsed : Nat := 0

/-- Links with state `σ`. An operation is told the time, and tells how long it took, so that time
never runs back. -/
class Link (σ : Type) where
  name : σ → String
  isOpen : σ → Bool
  /-- Opens the link; the number is the present time. -/
  connect : Nat → σ → Outcome σ Unit
  /-- Closes the link. -/
  disconnect : Nat → σ → Outcome σ Unit
  /-- Writes bytes. -/
  send : Nat → Bytes → σ → Outcome σ Unit
  /-- Waits for bytes from now to a deadline; no bytes mean that the deadline has passed. -/
  receive : Nat → Nat → σ → Outcome σ Bytes
  /-- A bound on the chunks that are under way while nothing is written. -/
  backlog : σ → Nat
  backlog_receive : ∀ now deadline s chunk,
    (receive now deadline s).result = .ok chunk → chunk ≠ [] →
      backlog (receive now deadline s).link < backlog s

end CardReader
