import CardReader.Reader.Waiting
import CardReader.Registry

namespace CardReader

/-- Readers and what they share. A slot stays taken when its reader could not be made or is gone. -/
structure Fleet (σ : Type) where
  world : World := {}
  registry : Registry
  slots : List (Option (Reader σ AnyDevice)) := []

namespace Fleet

variable {σ α : Type}

/-- Makes a reader in the next slot. -/
def create (outlets : Outlets σ) (c : ReaderConfig) (s : Settings) (f : Fleet σ) :
    Except ReaderError (Reader σ AnyDevice) × Fleet σ :=
  match f.registry.create outlets c s f.world with
  | .error e => (.error e, { f with slots := f.slots ++ [none] })
  | .ok (reader, world) => (.ok reader, { f with world, slots := f.slots ++ [some reader] })

def reader? (n : Nat) (f : Fleet σ) : Option (Reader σ AnyDevice) := (f.slots[n]?).join

/-- Does something with the reader in a slot, if there is one. -/
def on? (n : Nat) (op : Reader.Op σ AnyDevice α) (f : Fleet σ) :
    Option (Except ReaderError α) × Fleet σ :=
  match f.reader? n with
  | none => (none, f)
  | some reader =>
    let put (s : Station σ AnyDevice) : Fleet σ :=
      { f with world := s.world, slots := f.slots.set n (some s.reader) }
    match op ⟨f.world, reader⟩ with
    | .ok a s => (some (.ok a), put s)
    | .error e s => (some (.error e), put s)

/-- Drops the reader in a slot, and gives back the port that it has in use. -/
def drop (n : Nat) (f : Fleet σ) : Fleet σ :=
  match f.reader? n with
  | none => f
  | some reader =>
    { f with world := (Station.vacated ⟨f.world, reader⟩).world, slots := f.slots.set n none }

end Fleet

end CardReader
