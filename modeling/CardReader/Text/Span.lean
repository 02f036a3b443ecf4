namespace CardReader.Text

/-- The three digits of a fraction in thousandths, without zeros at the end. -/
def thousandths (n : Nat) : List Char :=
  let all := [n / 100 % 10, n / 10 % 10, n % 10]
  ((all.reverse.dropWhile (· == 0)).reverse).map Nat.digitChar

/-- A span of `ms` milliseconds. -/
def span (ms : Nat) : String :=
  if ms = 0 then "0ns"
  else if ms < 1000 then toString ms ++ "ms"
  else if ms % 1000 = 0 then toString (ms / 1000) ++ "s"
  else toString (ms / 1000) ++ "." ++ String.ofList (thousandths (ms % 1000)) ++ "s"

end CardReader.Text
