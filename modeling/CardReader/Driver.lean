import CardReader.Channel
import CardReader.Chip

namespace CardReader

/-- Drivers with state `δ`. -/
class Driver (δ : Type) extends Codec δ where
  /-- A command that every reader of the family answers. -/
  ping : δ → Bytes
  /-- Whether an answer to the ping comes from a reader of the family. -/
  acceptsPing : δ → Answer → Bool := fun _ _ => true
  /-- Pause between two looks for a card. -/
  pollInterval : δ → Nat := fun _ => 250
  /-- Whether there is a secure session. -/
  isAuthenticated : δ → Bool := fun _ => false
  /-- Finds out whether a reader of the family answers on the channel. -/
  probe {σ : Type} [Link σ] : Act σ δ Bool := do
    let answer ← Channel.send (ping (← get).driver)
    return acceptsPing (← get).driver answer
  /-- Makes a reader ready for use. -/
  configure {σ : Type} [Link σ] : Act σ δ Unit
  /-- Looks for a card in the field. -/
  chipInAir {σ : Type} [Link σ] : Act σ δ (Option Chip)
  /-- Undoes `configure` before the link closes. -/
  release {σ : Type} [Link σ] : Act σ δ Unit := pure ()

end CardReader
