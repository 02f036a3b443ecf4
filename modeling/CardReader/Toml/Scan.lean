import CardReader.Toml.Value

namespace CardReader.Toml

/-- A piece of a document: what it reads and the characters after it, or nothing if it is not
there. -/
abbrev Piece (α : Type) := StateT (List Char) Option α

namespace Piece

def fail : Piece α := fun _ => none

/-- The next character, which stays where it is. -/
def peek : Piece (Option Char) := return (← get).head?

/-- One character that `ok` accepts. -/
def one (ok : Char → Bool) : Piece Char := fun s =>
  match s with
  | c :: rest => if ok c then some (c, rest) else none
  | [] => none

def char (c : Char) : Piece Unit := do let _ ← one (· == c)

def word (word : String) : Piece Unit := word.toList.forM char

/-- The longest run of characters that `ok` accepts. -/
def run (ok : Char → Bool) : Piece (List Char) := fun s => some (s.span ok)

/-- The longest run, which must not be empty. -/
def run1 (ok : Char → Bool) : Piece (List Char) := do
  let first ← one ok
  return first :: (← run ok)

def opt (p : Piece α) : Piece (Option α) := fun s =>
  match p s with
  | some (a, rest) => some (some a, rest)
  | none => some (none, s)

/-- The first of two pieces that is there. -/
def or (p q : Piece α) : Piece α := fun s => (p s).or (q s)

/-- At most `most` pieces one after the other. -/
def upTo (most : Nat) (p : Piece α) : Piece (List α) :=
  match most with
  | 0 => return []
  | most + 1 => do
    match ← opt p with
    | none => return []
    | some a => return a :: (← upTo most p)

/-- Pieces one after the other, as many as there are; none of them is empty. -/
def many (p : Piece α) : Piece (List α) := fun s => upTo s.length p s

/-- Pieces with separators between them, at least one. -/
def separated (p : Piece α) (separator : Piece Unit) : Piece (List α) := do
  let first ← p
  return first :: (← many (do separator; p))

def atEnd : Piece Bool := return (← get).isEmpty

end Piece

open Piece

def isSpace (c : Char) : Bool := c == ' ' || c == '\t'

def isDigit (c : Char) : Bool := c.isDigit

/-- Characters that may stand in texts and comments, if nothing else forbids them. -/
def isPlain (c : Char) : Bool := c == '\t' || (0x20 ≤ c.toNat && c.toNat != 0x7F)

def spaces : Piece Unit := do let _ ← run isSpace

def newline : Piece Unit := or (char '\n') (word "\r\n")

/-- The end of a line or of the document. -/
def lineEnd : Piece Unit := do if ← atEnd then return () else newline

def comment : Piece Unit := do
  char '#'
  let _ ← run isPlain

/-- Blanks, line ends and comments. -/
def gap : Piece Unit := do
  spaces
  let _ ← many (do
    let _ ← opt comment
    newline
    spaces)

/-- What may follow a value or a header on its line. -/
def restOfLine : Piece Unit := do
  spaces
  let _ ← opt comment
  lineEnd

end CardReader.Toml
