import CardReader.Fault.Reader
import CardReader.Text.Blank
import CardReader.Text.Lossy

namespace CardReader.Identifier

/-- Bytes of hexadecimal digits between blanks; a zero is put in front of an odd number of them. -/
def ofHex (text : List Char) : Except ReaderError Bytes :=
  let digits := Text.trim text
  let spelled := Text.Utf8.encode digits
  match Hex.decode (if spelled.length % 2 = 1 then 48 :: spelled else spelled) with
  | .ok identifier => .ok identifier
  | .error e => .error (.badResponse (.identifier (String.ofList digits) e))

/-- Bytes of a number in decimal digits between blanks, as few as it takes. -/
def ofDecimal (text : List Char) : Except ReaderError Bytes :=
  match Text.Number.parse (Text.trim text) with
  | .ok number => ofHex (Nat.toDigits 16 number)
  | .error e => .error (.badResponse (.cardNumber (String.ofList text) e))

end CardReader.Identifier
