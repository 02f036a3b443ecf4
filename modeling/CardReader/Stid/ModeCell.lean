import CardReader.Stid.Mode

namespace CardReader.Stid

/-- The present mode, and what each override remembers, oldest first, until it is dropped. Overrides
may be dropped in any order. -/
structure ModeCell where
  mode : Mode
  overridden : List (Option Mode) := []
  deriving DecidableEq

namespace ModeCell

def setMode (mode : Mode) (c : ModeCell) : ModeCell := { c with mode }

def override (mode : Mode) (c : ModeCell) : ModeCell := ⟨mode, c.overridden ++ [some c.mode]⟩

/-- Drops the `n`-th override; a second time does nothing. -/
def drop (n : Nat) (c : ModeCell) : ModeCell :=
  match c.overridden.getD n none with
  | some before => ⟨before, c.overridden.set n none⟩
  | none => c

end ModeCell

end CardReader.Stid
