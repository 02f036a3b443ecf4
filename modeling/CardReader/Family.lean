namespace CardReader

/-- A family of readers. -/
inductive Family where
  | stidStr
  | rpleth
  | osdp
  | axess
  | stidPrg
  | promag
  deriving DecidableEq

namespace Family

/-- Every family, in the order that registries list them. -/
def all : List Family := [.stidStr, .rpleth, .osdp, .axess, .stidPrg, .promag]

def index : Family → Nat
  | .stidStr => 0
  | .rpleth => 1
  | .osdp => 2
  | .axess => 3
  | .stidPrg => 4
  | .promag => 5

def name : Family → String
  | .stidStr => "STidSTR"
  | .rpleth => "Rpleth"
  | .osdp => "OSDP"
  | .axess => "AxessTMC13"
  | .stidPrg => "STidPRG"
  | .promag => "Promag"

/-- Name in configurations. -/
def word : Family → String
  | .stidStr => "stidstr"
  | .rpleth => "rpleth"
  | .osdp => "osdp"
  | .axess => "axesstmc13"
  | .stidPrg => "stidprg"
  | .promag => "promag"

def ofWord? (word : String) : Option Family := all.find? fun f => f.word == word

/-- Line rate a reader of the family leaves the factory with. -/
def defaultBaud : Family → UInt32
  | .stidStr => 38400
  | .axess => 57600
  | .rpleth | .osdp | .stidPrg | .promag => 9600

theorem mem_all (f : Family) : f ∈ all := by cases f <;> decide

theorem getElem?_index (f : Family) : all[f.index]? = some f := by cases f <;> rfl

theorem ofWord?_word (f : Family) : ofWord? f.word = some f := by cases f <;> decide

end Family

end CardReader
