import CardReader.Bytes.Basic

namespace CardReader.Text.Utf8

/-- Whether a byte continues a character. -/
def isTail (b : UInt8) : Bool := 0x80 ≤ b && b ≤ 0xBF

/-- Lowest and highest second byte after a first byte, with the number of bytes of the character. -/
def secondByte? (b : UInt8) : Option (Nat × UInt8 × UInt8) :=
  if 0xC2 ≤ b ∧ b ≤ 0xDF then some (2, 0x80, 0xBF)
  else if b = 0xE0 then some (3, 0xA0, 0xBF)
  else if b = 0xED then some (3, 0x80, 0x9F)
  else if 0xE1 ≤ b ∧ b ≤ 0xEF then some (3, 0x80, 0xBF)
  else if b = 0xF0 then some (4, 0x90, 0xBF)
  else if 0xF1 ≤ b ∧ b ≤ 0xF3 then some (4, 0x80, 0xBF)
  else if b = 0xF4 then some (4, 0x80, 0x8F)
  else none

/-- The character with the given leading bits and continuation bytes. -/
def join (lead : Nat) (tail : List UInt8) : Char :=
  Char.ofNat (tail.foldl (fun n b => n * 64 + b.toNat % 64) lead)

/-- The first character of a byte string and the number of bytes it takes, or the number of bytes
of the fault there. -/
def first (a : UInt8) (rest : Bytes) : Option Char × Nat :=
  if a < 0x80 then (some (Char.ofNat a.toNat), 1)
  else
    match secondByte? a, rest with
    | some (width, least, most), b :: rest =>
      if b < least ∨ most < b then (none, 1)
      else if width = 2 then (some (join (a.toNat % 32) [b]), 2)
      else
        match rest with
        | [] => (none, 2)
        | c :: rest =>
          if ¬ isTail c then (none, 2)
          else if width = 3 then (some (join (a.toNat % 16) [b, c]), 3)
          else
            match rest with
            | [] => (none, 3)
            | d :: _ =>
              if ¬ isTail d then (none, 3) else (some (join (a.toNat % 8) [b, c, d]), 4)
    | _, _ => (none, 1)

/-- The characters of a byte string, `none` for each fault. A maximal prefix that can begin no
character counts as one fault. -/
def scan : Bytes → List (Option Char)
  | [] => []
  | a :: rest =>
    let found := first a rest
    found.1 :: scan (rest.drop (found.2 - 1))
termination_by data => data.length
decreasing_by simp only [List.length_drop, List.length_cons]; omega

/-- The text of a byte string, U+FFFD for each fault. -/
def lossy (data : Bytes) : String := String.ofList ((scan data).map (·.getD '\ufffd'))

/-- The text of a byte string that has no fault. -/
def decode? (data : Bytes) : Option String := ((scan data).mapM id).map String.ofList

def encode (text : List Char) : Bytes := text.flatMap String.utf8EncodeChar

end CardReader.Text.Utf8
