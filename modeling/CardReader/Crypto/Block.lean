import CardReader.Bytes.Basic

namespace CardReader

/-- Four bytes, one column of a block. -/
structure Column where
  b0 : UInt8
  b1 : UInt8
  b2 : UInt8
  b3 : UInt8
  deriving DecidableEq

namespace Column

def xor (a b : Column) : Column := ⟨a.b0 ^^^ b.b0, a.b1 ^^^ b.b1, a.b2 ^^^ b.b2, a.b3 ^^^ b.b3⟩

def map (f : UInt8 → UInt8) (a : Column) : Column := ⟨f a.b0, f a.b1, f a.b2, f a.b3⟩

def toList (a : Column) : Bytes := [a.b0, a.b1, a.b2, a.b3]

theorem xor_xor (a b : Column) : xor (xor a b) b = a := by
  simp only [xor, UInt8.xor_assoc, UInt8.xor_self, UInt8.xor_zero]

end Column

/-- Sixteen bytes as four columns. -/
structure Block where
  c0 : Column
  c1 : Column
  c2 : Column
  c3 : Column
  deriving DecidableEq

namespace Block

def size : Nat := 16

def xor (a b : Block) : Block := ⟨a.c0.xor b.c0, a.c1.xor b.c1, a.c2.xor b.c2, a.c3.xor b.c3⟩

def map (f : UInt8 → UInt8) (a : Block) : Block := ⟨a.c0.map f, a.c1.map f, a.c2.map f, a.c3.map f⟩

def toList (a : Block) : Bytes := a.c0.toList ++ a.c1.toList ++ a.c2.toList ++ a.c3.toList

def zero : Block := ⟨⟨0, 0, 0, 0⟩, ⟨0, 0, 0, 0⟩, ⟨0, 0, 0, 0⟩, ⟨0, 0, 0, 0⟩⟩

/-- The first sixteen bytes, zeros where the list is shorter. -/
def ofPrefix (data : Bytes) : Block :=
  let byte (i : Nat) := data.getD i 0
  ⟨⟨byte 0, byte 1, byte 2, byte 3⟩, ⟨byte 4, byte 5, byte 6, byte 7⟩,
    ⟨byte 8, byte 9, byte 10, byte 11⟩, ⟨byte 12, byte 13, byte 14, byte 15⟩⟩

/-- The block that consists of exactly the given bytes. -/
def ofList? (data : Bytes) : Option Block :=
  if data.length = size then some (ofPrefix data) else none

/-- Blocks of a byte string, the last one filled up with zeros. -/
def split (data : Bytes) : List Block :=
  if data.isEmpty then [] else ofPrefix data :: split (data.drop size)
termination_by data.length
decreasing_by
  cases data with
  | nil => simp at *
  | cons b rest => simp only [List.length_drop, List.length_cons, size]; omega

def join (blocks : List Block) : Bytes := blocks.flatMap toList

def isUniform (a : Block) : Bool := a.toList.all (· == a.c0.b0)

theorem xor_xor (a b : Block) : xor (xor a b) b = a := by
  simp [xor, Column.xor_xor]

theorem length_toList (a : Block) : a.toList.length = size := rfl

theorem ofPrefix_toList_append (a : Block) (rest : Bytes) : ofPrefix (a.toList ++ rest) = a := rfl

theorem drop_toList_append (a : Block) (rest : Bytes) : (a.toList ++ rest).drop size = rest := rfl

theorem ofList?_toList (a : Block) : ofList? a.toList = some a := rfl

theorem split_nil : split [] = [] := by rw [split]; rfl

theorem split_toList_append (a : Block) (rest : Bytes) :
    split (a.toList ++ rest) = a :: split rest := by
  rw [split, ofPrefix_toList_append, drop_toList_append]
  rfl

theorem split_join (blocks : List Block) : split (join blocks) = blocks := by
  induction blocks with
  | nil => exact split_nil
  | cons a rest ih =>
    change split (a.toList ++ join rest) = a :: rest
    rw [split_toList_append, ih]

end Block

end CardReader
