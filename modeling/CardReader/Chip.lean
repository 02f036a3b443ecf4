import CardReader.Bytes.Hex

namespace CardReader

/-- A card: its type as far as the reader tells, and its identifier. -/
structure Chip where
  cardType : String
  identifier : Bytes
  deriving DecidableEq

namespace Chip

/-- A card whose type the reader does not tell. -/
def generic (identifier : Bytes) : Chip := ⟨"GenericTag", identifier⟩

/-- Two readings of one card; the type does not count. -/
def same (a b : Chip) : Bool := a.identifier == b.identifier

def text (c : Chip) : String := c.cardType ++ "[" ++ Hex.upper c.identifier ++ "]"

end Chip

end CardReader
