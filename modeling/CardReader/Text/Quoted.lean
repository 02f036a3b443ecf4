import CardReader.Text.Unprintable

namespace CardReader.Text.Quoted

/-- Form of one character between marks `mark`: marks and backslashes stand after a backslash, five
control characters are letters, and other unprintable ones their code points in braces. -/
def escape (mark : Char) (c : Char) : List Char :=
  if c = mark ∨ c = '\\' then ['\\', c]
  else if c = '\n' then ['\\', 'n']
  else if c = '\r' then ['\\', 'r']
  else if c = '\t' then ['\\', 't']
  else if c.toNat = 0 then ['\\', '0']
  else if Unprintable.contains c then
    ['\\', 'u', '\x7b'] ++ Nat.toDigits 16 c.toNat ++ ['\x7d']
  else [c]

def string (text : String) : String :=
  String.ofList (['"'] ++ text.toList.flatMap (escape '"') ++ ['"'])

def char (c : Char) : String := String.ofList (['\''] ++ escape '\'' c ++ ['\''])

end CardReader.Text.Quoted
