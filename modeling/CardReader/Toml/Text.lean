import CardReader.Toml.Scan

namespace CardReader.Toml

open Piece

def hexValue (c : Char) : Nat :=
  if c.isDigit then c.toNat - 48 else if c.toNat < 97 then c.toNat - 55 else c.toNat - 87

def isHexDigit (c : Char) : Bool :=
  c.isDigit || ('a' ≤ c && c ≤ 'f') || ('A' ≤ c && c ≤ 'F')

def number (base : Nat) (digits : List Char) : Nat :=
  digits.foldl (fun n c => n * base + hexValue c) 0

/-- The character with a code point of `n` digits. -/
def codePoint (n : Nat) : Piece Char := do
  let digits ← upTo n (one isHexDigit)
  let code := number 16 digits
  if digits.length ≠ n ∨ ¬ code.isValidChar then fail else return Char.ofNat code

/-- The character that an escape stands for, after the backslash. -/
def escaped : Piece Char := do
  match ← one (fun _ => true) with
  | 'b' => return '\x08'
  | 'f' => return '\x0c'
  | 'n' => return '\n'
  | 'r' => return '\r'
  | 't' => return '\t'
  | '"' => return '"'
  | '\\' => return '\\'
  | 'u' => codePoint 4
  | 'U' => codePoint 8
  | _ => fail

/-- Text between double quotes on one line. -/
def basicText : Piece String := do
  char '"'
  let parts ← many (or (run1 fun c => isPlain c && c != '"' && c != '\\')
    (do char '\\'; return [← escaped]))
  char '"'
  return String.ofList parts.flatten

/-- Text between single quotes on one line. -/
def literalText : Piece String := do
  char '\''
  let text ← run fun c => isPlain c && c != '\''
  char '\''
  return String.ofList text

/-- An end of a line after a backslash, with all blanks and ends of lines after it. -/
def foldedLine : Piece (List Char) := do
  char '\\'
  spaces
  newline
  let _ ← many (or newline (do let _ ← run1 isSpace))
  return []

/-- Text over several lines between three marks. One or two marks in a row belong to the text, also
right before the end. -/
def longText (mark : Char) (part : Piece (List Char)) : Piece String := do
  word (String.ofList [mark, mark, mark])
  let _ ← opt newline
  let quotes : Piece (List Char) := do
    let marks ← run1 (· == mark)
    if 3 ≤ marks.length then fail else return marks
  let line : Piece (List Char) := do newline; return ['\n']
  let parts ← many (or part (or line quotes))
  let marks ← run (· == mark)
  if marks.length < 3 ∨ 5 < marks.length then fail
  else return String.ofList (parts.flatten ++ marks.drop 3)

def text : Piece Value := do
  let plain (mark : Char) : Piece (List Char) :=
    run1 fun c => isPlain c && c != mark && (mark != '"' || c != '\\')
  let long := or
    (longText '"' (or (plain '"') (or foldedLine (do char '\\'; return [← escaped]))))
    (longText '\'' (plain '\''))
  return .string (← or long (or basicText literalText))

/-- A part of a key: a bare word or a text on one line. -/
def simpleKey : Piece String := do
  let bare : Piece String := do
    return String.ofList (← run1 fun c => c.isAlphanum || c == '-' || c == '_')
  or bare (or basicText literalText)

/-- Most levels of keys, lists and braces. -/
def depthLimit : Nat := 80

/-- Parts of a key with points between them. -/
def dottedKey : Piece (List String) := do
  let keys ← separated (do spaces; let key ← simpleKey; spaces; return key) (char '.')
  if depthLimit ≤ keys.length then fail else return keys

end CardReader.Toml
