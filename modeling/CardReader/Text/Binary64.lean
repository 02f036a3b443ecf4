namespace CardReader.Text.Binary64

/-- A finite magnitude `mantissa` · 2^`exponent`, with the interval of reals that round to it given
by its ends in quarters of the unit in the last place. -/
structure Magnitude where
  mantissa : Nat
  exponent : Int
  low : Nat
  high : Nat

/-- Magnitude of the low 63 bits, unless they mean an infinity or no number. -/
def Magnitude.ofBits? (bits : Nat) : Option Magnitude :=
  let fraction : Nat := bits % Nat.pow 2 52
  let field : Nat := bits / Nat.pow 2 52 % Nat.pow 2 11
  if field = 2047 then none
  else if field = 0 then some ⟨fraction, -1074, 4 * fraction - 2, 4 * fraction + 2⟩
  else
    let m : Nat := Nat.pow 2 52 + fraction
    let gap : Nat := if fraction = 0 ∧ 1 < field then 1 else 2
    some ⟨m, (field : Int) - 1075, 4 * m - gap, 4 * m + 2⟩

/-- Whether the grid point `d` lies in the interval from `low` to `high`, whose ends count iff the
mantissa is even; `a` and `b` scale the two sides to whole numbers. -/
def Magnitude.holds (v : Magnitude) (a b d : Nat) : Bool :=
  if v.mantissa % 2 = 0 then v.low * a ≤ d * b && d * b ≤ v.high * a
  else v.low * a < d * b && d * b < v.high * a

/-- Scale factors that compare quarters of the unit with steps of 10^`place`. -/
def Magnitude.scales (v : Magnitude) (place : Int) : Nat × Nat :=
  let e := v.exponent - 2
  (Nat.pow 2 e.toNat * Nat.pow 10 (-place).toNat, Nat.pow 2 (-e).toNat * Nat.pow 10 place.toNat)

/-- The point of the grid with steps of 10^`place` that reads back as `v`, the nearer one of two. -/
def Magnitude.onGrid? (v : Magnitude) (place : Int) : Option Nat :=
  let (a, b) := v.scales place
  let value := 4 * v.mantissa * a
  let d := value / b
  match v.holds a b d, v.holds a b (d + 1) with
  | true, false => some d
  | false, true => some (d + 1)
  | true, true => some (if 2 * (value - d * b) ≤ b then d else d + 1)
  | false, false => none

/-- The power of ten at the front: `v` has its first digit just below it. -/
def Magnitude.frontPlace (v : Magnitude) : Int :=
  let above (k : Int) : Bool := let (a, b) := v.scales k; decide (4 * v.mantissa * a < b)
  match (List.range 640).find? fun (i : Nat) => above ((i : Int) - 330) with
  | some i => (i : Int) - 330
  | none => 0

/-- Digits as a whole number and the power of ten of the last one. -/
def Magnitude.shortest (v : Magnitude) : Nat × Int :=
  let front := v.frontPlace
  match (List.range 17).findSome? fun (i : Nat) =>
    let place := front - ((i : Int) + 1)
    (v.onGrid? place).map fun d => (d, place) with
  | some found => found
  | none => (v.mantissa, 0)

/-- Positional text of `digits` · 10^`place`, with at least one digit after the point. -/
def positional (digits : Nat) (place : Int) : List Char :=
  let text := Nat.toDigits 10 digits
  if 0 ≤ place then text ++ List.replicate place.toNat '0' ++ ['.', '0']
  else
    let behind := (-place).toNat
    let padded := List.replicate (behind + 1 - text.length) '0' ++ text
    let cut := padded.length - behind
    let fraction := ((padded.drop cut).reverse.dropWhile (· == '0')).reverse
    padded.take cut ++ ['.'] ++ (if fraction.isEmpty then ['0'] else fraction)

def text (bits : UInt64) : String :=
  let negative : Bool := 0x8000000000000000 ≤ bits.toNat
  let sign := if negative then ['-'] else []
  match Magnitude.ofBits? (bits.toNat % 0x8000000000000000) with
  | none => if bits.toNat % Nat.pow 2 52 = 0 then String.ofList (sign ++ ['i', 'n', 'f']) else "NaN"
  | some v =>
    if v.mantissa = 0 then String.ofList (sign ++ ['0', '.', '0'])
    else String.ofList (sign ++ positional v.shortest.1 v.shortest.2)

end CardReader.Text.Binary64
